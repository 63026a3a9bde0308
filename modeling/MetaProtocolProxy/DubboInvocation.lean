import MetaProtocolProxy.DubboAttachment
import MetaProtocolProxy.DubboParameters

/-!
# Invocations that are decoded when they are asked for

`deserializeRpcInvocation` reads four strings and leaves the parameters and the attachment to two
callbacks, which share one decoder behind the name of the method. An accessor of
`RpcInvocationImpl` (`message_impl.cc`) runs what has not been run : the parameters first, and
then the attachment, so the order of the calls makes no difference as long as the parameters can
be read.

A parameter that cannot be read is an exception, but the decoder stays where it has stopped, and
nothing is kept. The next call reads a string of types from there, and since every attempt that
fails has read one, some call does not fail (`exists_ok`). So all calls have the outcome that the
body gives them exactly where the parameters can be read (`sequential_iff`).
-/

namespace MetaProtocolProxy.Dubbo

open HessianUtils

/-- A string that was read took a byte, and no more than there are. -/
def Hessian2.Progress (hessian : Hessian2) : Prop :=
  ∀ {bytes value size}, hessian.decodeString bytes = (some value, size) →
    0 < size ∧ size ≤ bytes.length

/-- The bytes of a string. -/
def utf8 (value : String) : Bytes :=
  value.toList.flatMap String.utf8EncodeChar

variable {Object : Type}

/-! ## The invocation -/

/-- `RpcInvocationImpl`, with the offset of the decoder that its callbacks share. -/
structure RpcInvocationImpl (objects : Hessian2.Objects Object) where
  invocation : RpcInvocation
  offset : ℕ
  parameters : Option (List Object) := none
  attachment : Option (Attachment objects) := none

/-- The accessors. -/
inductive Accessor where
  | parameters | mutableParameters | attachment | mutableAttachment | serviceGroup
deriving DecidableEq, Repr

/-- What an accessor gives. -/
inductive Accessed (objects : Hessian2.Objects Object) where
  | parameters (parameters : List Object)
  | attachment (attachment : Attachment objects)
  | serviceGroup (group : Option String)

namespace RpcInvocationImpl

variable (hessian : Hessian2) (objects : Hessian2.Objects Object) (originMessage : Bytes)

/-- What `deserializeRpcInvocation` returns : the decoder is behind the name of the method. -/
def new (invocation : RpcInvocation) : RpcInvocationImpl objects where
  invocation := invocation
  offset := invocation.parsedSize

/-- The loop over the parameters, from an offset on. -/
def decodeParameters : ℕ → ℕ → List Object → Except Fault (List Object) × ℕ
  | 0, offset, params => (.ok params, offset)
  | number + 1, offset, params =>
    match objects.decodeObject (originMessage.drop offset) with
    | (some result, size) => decodeParameters number (offset + size) (params ++ [result])
    | (none, size) =>
      (.error (.exception "Cannot parse RpcInvocation parameter from buffer"), offset + size)

/-- The callback of the parameters : the result, and where the decoder stands. -/
def parametersLazyCallback (offset : ℕ) : Except Fault (List Object) × ℕ :=
  match hessian.decodeString (originMessage.drop offset) with
  | (some types, size) =>
    if types = "" then (.ok [], offset + size)
    else
      decodeParameters objects originMessage (getParametersNumber (utf8 types)).toNat
        (offset + size) []
  | (none, size) => (.ok [], offset + size)

/-- The callback of the attachment. What is no untyped map is an empty one. -/
def attachmentLazyCallback (offset : ℕ) : Attachment objects × ℕ :=
  let (result, size) := objects.decodeObject (originMessage.drop offset)
  match result.bind objects.toUntypedMap with
  | some map => (Attachment.new map offset, offset + size)
  | none => (Attachment.new {} offset, offset + size)

variable {objects}

/-- `assignParametersIfNeed`. -/
def assignParametersIfNeed (invo : RpcInvocationImpl objects) :
    Except Fault Unit × RpcInvocationImpl objects :=
  match invo.parameters with
  | some _ => (.ok (), invo)
  | none =>
    match parametersLazyCallback hessian objects originMessage invo.offset with
    | (.ok parameters, offset) => (.ok (), { invo with parameters := some parameters, offset })
    | (.error fault, offset) => (.error fault, { invo with offset })

/-- The group of the attachment, if it has one. -/
def assignGroup (attachment : Attachment objects) (invo : RpcInvocationImpl objects) :
    RpcInvocationImpl objects :=
  match attachment.lookup "group" with
  | some group => { invo with invocation := { invo.invocation with serviceGroup := some group } }
  | none => invo

/-- `assignAttachmentIfNeed`. -/
def assignAttachmentIfNeed (invo : RpcInvocationImpl objects) :
    Except Fault Unit × RpcInvocationImpl objects :=
  match invo.attachment with
  | some _ => (.ok (), invo)
  | none =>
    match invo.assignParametersIfNeed hessian originMessage with
    | (.error fault, invo) => (.error fault, invo)
    | (.ok (), invo) =>
      let (attachment, offset) := attachmentLazyCallback objects originMessage invo.offset
      (.ok (), { invo with attachment := some attachment, offset }.assignGroup attachment)

/-- A call of an accessor. -/
def call (invo : RpcInvocationImpl objects) :
    Accessor → Except Fault (Accessed objects) × RpcInvocationImpl objects
  | .parameters | .mutableParameters =>
    match invo.assignParametersIfNeed hessian originMessage with
    | (.error fault, invo) => (.error fault, invo)
    | (.ok (), invo) =>
      (match invo.parameters with
        | some parameters => .ok (.parameters parameters)
        | none => .error (.panic "null parameters_"), invo)
  | .attachment | .mutableAttachment =>
    match invo.assignAttachmentIfNeed hessian originMessage with
    | (.error fault, invo) => (.error fault, invo)
    | (.ok (), invo) =>
      (match invo.attachment with
        | some attachment => .ok (.attachment attachment)
        | none => .error (.panic "null attachment_"), invo)
  | .serviceGroup =>
    match invo.assignAttachmentIfNeed hessian originMessage with
    | (.error fault, invo) => (.error fault, invo)
    | (.ok (), invo) => (.ok (.serviceGroup invo.invocation.serviceGroup), invo)

/-- The outcomes of a sequence of calls. -/
def outcomes : List Accessor → RpcInvocationImpl objects → List (Except Fault (Accessed objects))
  | [], _ => []
  | accessor :: calls, invo =>
    match invo.call hessian originMessage accessor with
    | (outcome, invo) => outcome :: outcomes calls invo

end RpcInvocationImpl

/-! ## Reading in sequence -/

section Sequence

variable (hessian : Hessian2) (objects : Hessian2.Objects Object) (bytes : Bytes)

/-- So many objects from an offset on, and where they end. -/
def readObjects : ℕ → ℕ → Option (List Object × ℕ)
  | 0, offset => some ([], offset)
  | number + 1, offset =>
    match objects.decodeObject (bytes.drop offset) with
    | (some object, size) =>
      (readObjects number (offset + size)).map fun (read, last) => (object :: read, last)
    | (none, _) => none

/-- The parameters that the string of types at an offset announces, and where they end. A string
that cannot be read announces none. -/
def readParameters (offset : ℕ) : Option (List Object × ℕ) :=
  let (types, size) := hessian.decodeString (bytes.drop offset)
  readObjects objects bytes (types.elim 0 fun types => (getParametersNumber (utf8 types)).toNat)
    (offset + size)

/-- The attachment at an offset. -/
def readAttachment (offset : ℕ) : Attachment objects :=
  Attachment.new (((objects.decodeObject (bytes.drop offset)).1.bind objects.toUntypedMap).getD {})
    offset

/-- What an accessor should give : the parameters from an offset on, and the attachment behind
them. -/
def expected (offset : ℕ) (accessor : Accessor) : Except Fault (Accessed objects) :=
  match readParameters hessian objects bytes offset with
  | none => .error (.exception "Cannot parse RpcInvocation parameter from buffer")
  | some (parameters, last) =>
    match accessor with
    | .parameters | .mutableParameters => .ok (.parameters parameters)
    | .attachment | .mutableAttachment => .ok (.attachment (readAttachment objects bytes last))
    | .serviceGroup =>
      .ok (.serviceGroup ((readAttachment objects bytes last).lookup "group"))

/-- The size of the four strings in front of the types. -/
def namesSize : ℕ :=
  let dubboVersion := (hessian.decodeString bytes).2
  let serviceName := dubboVersion + (hessian.decodeString (bytes.drop dubboVersion)).2
  let serviceVersion := serviceName + (hessian.decodeString (bytes.drop serviceName)).2
  serviceVersion + (hessian.decodeString (bytes.drop serviceVersion)).2

/-- Every call on an invocation has the outcome that the bytes behind the name of the method give
it, whatever was called before. -/
def Sequential (offset : ℕ) (invocation : RpcInvocation) : Prop :=
  ∀ calls, (RpcInvocationImpl.new objects invocation).outcomes hessian bytes calls =
    calls.map (expected hessian objects bytes offset)

end Sequence

theorem parsedSize_of_deserializeRpcInvocation {hessian : Hessian2} {buffer : Bytes}
    {context : Context} {invocation : RpcInvocation}
    (h : deserializeRpcInvocation hessian buffer context = .ok invocation) :
    invocation.parsedSize = context.headerSize + namesSize hessian buffer ∧
      invocation.serviceGroup = none := by
  unfold deserializeRpcInvocation at h
  dsimp only at h
  split at h
  · cases h
  · split at h
    · cases h
      exact ⟨rfl, rfl⟩
    · cases h

namespace RpcInvocationImpl

variable {hessian : Hessian2} {objects : Hessian2.Objects Object} {bytes : Bytes}

/-! ## Where the parameters can be read -/

theorem decodeParameters_of_readObjects (number : ℕ) : ∀ {offset params read last},
    readObjects objects bytes number offset = some (read, last) →
      decodeParameters objects bytes number offset params = (.ok (params ++ read), last) := by
  induction number with
  | zero =>
    intro offset params read last h
    cases h
    rw [decodeParameters, List.append_nil]
  | succ number ih =>
    intro offset params read last h
    unfold readObjects at h
    unfold decodeParameters
    generalize objects.decodeObject (bytes.drop offset) = r at h ⊢
    obtain ⟨_ | object, size⟩ := r
    · cases h
    · dsimp only at h ⊢
      obtain ⟨⟨rest, last'⟩, hrest, heq⟩ := Option.map_eq_some_iff.mp h
      cases heq
      rw [ih hrest, List.append_assoc, List.singleton_append]

theorem parametersLazyCallback_of_readParameters {offset last : ℕ} {parameters : List Object}
    (h : readParameters hessian objects bytes offset = some (parameters, last)) :
    parametersLazyCallback hessian objects bytes offset = (.ok parameters, last) := by
  unfold readParameters at h
  unfold parametersLazyCallback
  generalize hessian.decodeString (bytes.drop offset) = r at h ⊢
  obtain ⟨_ | types, size⟩ := r
  · cases h
    rfl
  · dsimp only at h ⊢
    split
    · rename_i hempty
      rw [hempty] at h
      cases h
      rfl
    · exact decodeParameters_of_readObjects _ h

theorem attachmentLazyCallback_fst (offset : ℕ) :
    (attachmentLazyCallback objects bytes offset).1 = readAttachment objects bytes offset := by
  unfold attachmentLazyCallback readAttachment
  dsimp only
  cases (objects.decodeObject (bytes.drop offset)).1.bind objects.toUntypedMap <;> rfl

theorem assignGroup_eq (attachment : Attachment objects) {invo : RpcInvocationImpl objects}
    (h : invo.invocation.serviceGroup = none) :
    invo.assignGroup attachment =
      { invo with
        invocation := { invo.invocation with serviceGroup := attachment.lookup "group" } } := by
  unfold assignGroup
  split
  · rename_i hgroup
    rw [hgroup]
  · rename_i hgroup
    rw [hgroup, ← h]

/-- How far an invocation with these parameters has been decoded. -/
inductive Decoded (objects : Hessian2.Objects Object) (bytes : Bytes) (invocation : RpcInvocation)
    (parameters : List Object) (last : ℕ) : RpcInvocationImpl objects → Prop
  | fresh : Decoded objects bytes invocation parameters last (new objects invocation)
  | parameters : Decoded objects bytes invocation parameters last
      { invocation, offset := last, parameters := some parameters }
  | attachment {offset : ℕ} : Decoded objects bytes invocation parameters last
      { invocation := { invocation with
          serviceGroup := (readAttachment objects bytes last).lookup "group" }
        offset
        parameters := some parameters
        attachment := some (readAttachment objects bytes last) }

section Readable

variable {invocation : RpcInvocation} {parameters : List Object} {last : ℕ}
  {invo : RpcInvocationImpl objects}
  (h : readParameters hessian objects bytes invocation.parsedSize = some (parameters, last))
include h

theorem Decoded.assignParametersIfNeed
    (hd : Decoded objects bytes invocation parameters last invo) :
    ∃ invo', invo.assignParametersIfNeed hessian bytes = (.ok (), invo') ∧
      invo'.parameters = some parameters ∧
      Decoded objects bytes invocation parameters last invo' := by
  cases hd with
  | fresh =>
    refine ⟨_, ?_, rfl, .parameters⟩
    simp only [RpcInvocationImpl.assignParametersIfNeed, new,
      parametersLazyCallback_of_readParameters h]
  | parameters => exact ⟨_, rfl, rfl, .parameters⟩
  | attachment => exact ⟨_, rfl, rfl, .attachment⟩

theorem Decoded.assignAttachmentIfNeed (hgroup : invocation.serviceGroup = none)
    (hd : Decoded objects bytes invocation parameters last invo) :
    ∃ invo', invo.assignAttachmentIfNeed hessian bytes = (.ok (), invo') ∧
      invo'.attachment = some (readAttachment objects bytes last) ∧
      invo'.invocation.serviceGroup = (readAttachment objects bytes last).lookup "group" ∧
      Decoded objects bytes invocation parameters last invo' := by
  have hlast : ∀ {invo : RpcInvocationImpl objects},
      invo.assignParametersIfNeed hessian bytes =
        (.ok (), { invocation, offset := last, parameters := some parameters }) →
      invo.attachment = none →
      ∃ invo', invo.assignAttachmentIfNeed hessian bytes = (.ok (), invo') ∧
        invo'.attachment = some (readAttachment objects bytes last) ∧
        invo'.invocation.serviceGroup = (readAttachment objects bytes last).lookup "group" ∧
        Decoded objects bytes invocation parameters last invo' := by
    intro invo hparameters hnone
    refine ⟨_, ?_, rfl, rfl, @Decoded.attachment _ objects bytes invocation parameters last
      (attachmentLazyCallback objects bytes last).2⟩
    unfold RpcInvocationImpl.assignAttachmentIfNeed
    rw [hnone, hparameters]
    dsimp only
    rw [attachmentLazyCallback_fst]
    exact congrArg _ (assignGroup_eq _ hgroup)
  cases hd with
  | fresh =>
    refine hlast ?_ rfl
    simp only [RpcInvocationImpl.assignParametersIfNeed, new,
      parametersLazyCallback_of_readParameters h]
  | parameters => exact hlast rfl rfl
  | attachment => exact ⟨_, rfl, rfl, rfl, .attachment⟩

/-- A call has the outcome that is expected of it, however far the invocation was decoded. -/
theorem Decoded.call (hgroup : invocation.serviceGroup = none)
    (hd : Decoded objects bytes invocation parameters last invo) (accessor : Accessor) :
    (invo.call hessian bytes accessor).1 =
        expected hessian objects bytes invocation.parsedSize accessor ∧
      Decoded objects bytes invocation parameters last (invo.call hessian bytes accessor).2 := by
  obtain ⟨invo', hparameters, hsome, hd'⟩ := hd.assignParametersIfNeed h
  obtain ⟨invo'', hattachment, hsome', hgroup', hd''⟩ := hd.assignAttachmentIfNeed h hgroup
  unfold expected RpcInvocationImpl.call
  rw [h]
  cases accessor with
  | parameters | mutableParameters =>
    dsimp only
    rw [hparameters]
    dsimp only
    rw [hsome]
    exact ⟨rfl, hd'⟩
  | attachment | mutableAttachment =>
    dsimp only
    rw [hattachment]
    dsimp only
    rw [hsome']
    exact ⟨rfl, hd''⟩
  | serviceGroup =>
    dsimp only
    rw [hattachment]
    dsimp only
    rw [hgroup']
    exact ⟨rfl, hd''⟩

theorem Decoded.outcomes (hgroup : invocation.serviceGroup = none) (calls : List Accessor) :
    ∀ {invo}, Decoded objects bytes invocation parameters last invo →
      invo.outcomes hessian bytes calls =
        calls.map (expected hessian objects bytes invocation.parsedSize) := by
  induction calls with
  | nil => exact fun _ => rfl
  | cons accessor calls ih =>
    intro invo hd
    obtain ⟨houtcome, hd'⟩ := hd.call h hgroup accessor
    rw [RpcInvocationImpl.outcomes, List.map_cons, ← houtcome, ← ih hd']

end Readable

/-! ## Where they cannot -/

theorem le_decodeParameters (number : ℕ) : ∀ (offset : ℕ) (params : List Object),
    offset ≤ (decodeParameters objects bytes number offset params).2 := by
  induction number with
  | zero => exact fun offset _ => Nat.le_refl offset
  | succ number ih =>
    intro offset params
    unfold decodeParameters
    generalize objects.decodeObject (bytes.drop offset) = r
    obtain ⟨_ | object, size⟩ := r
    · exact Nat.le_add_right offset size
    · exact (Nat.le_add_right offset size).trans (ih _ _)

/-- An attempt that fails has read a string of types. -/
theorem lt_of_parametersLazyCallback (hp : hessian.Progress) {offset offset' : ℕ} {fault : Fault}
    (h : parametersLazyCallback hessian objects bytes offset = (.error fault, offset')) :
    offset < bytes.length ∧ offset < offset' := by
  unfold parametersLazyCallback at h
  rcases hread : hessian.decodeString (bytes.drop offset) with ⟨_ | types, size⟩
  · rw [hread] at h
    cases h
  · obtain ⟨hpos, hle⟩ := hp hread
    rw [List.length_drop] at hle
    rw [hread] at h
    dsimp only at h
    split at h
    · cases h
    · have hlast := @le_decodeParameters _ objects bytes
        (getParametersNumber (utf8 types)).toNat (offset + size) []
      rw [h] at hlast
      dsimp only at hlast
      omega

/-- The attempts to decode the parameters do not fail for ever. -/
theorem exists_ok (hp : hessian.Progress) (invo : RpcInvocationImpl objects)
    (hnone : invo.parameters = none) :
    ∃ n value,
      .ok value ∈ invo.outcomes hessian bytes (List.replicate n Accessor.parameters) := by
  obtain ⟨left, hleft⟩ : ∃ left, left = bytes.length - invo.offset := ⟨_, rfl⟩
  induction left using Nat.strongRecOn generalizing invo with
  | ind left ih =>
    rcases hcallback : parametersLazyCallback hessian objects bytes invo.offset with
      ⟨fault | parameters, offset⟩
    · obtain ⟨hlt, hmore⟩ := lt_of_parametersLazyCallback hp hcallback
      have hcall : invo.call hessian bytes .parameters = (.error fault, { invo with offset }) := by
        simp only [call, assignParametersIfNeed, hnone, hcallback]
      obtain ⟨n, value, hmem⟩ :=
        ih (bytes.length - offset) (by omega) { invo with offset } hnone rfl
      refine ⟨n + 1, value, ?_⟩
      rw [List.replicate_succ, outcomes, hcall]
      exact List.mem_cons_of_mem _ hmem
    · have hcall : (invo.call hessian bytes .parameters).1 = .ok (.parameters parameters) := by
        simp only [call, assignParametersIfNeed, hnone, hcallback]
      refine ⟨1, .parameters parameters, ?_⟩
      rw [List.replicate_one, outcomes]
      exact List.mem_cons.mpr (Or.inl hcall.symm)

end RpcInvocationImpl

/-- Whatever the order of the calls, they have the outcomes that the body gives them exactly where
every parameter that the string of types announces can be read. -/
theorem sequential_iff {hessian : Hessian2} (hp : hessian.Progress)
    (objects : Hessian2.Objects Object) {buffer : Bytes} {context : Context}
    {invocation : RpcInvocation}
    (h : deserializeRpcInvocation hessian buffer context = .ok invocation) {header : Bytes}
    (hheader : header.length = context.headerSize) :
    Sequential hessian objects (header ++ buffer.take context.bodySize)
        (header.length + namesSize hessian buffer) invocation ↔
      (readParameters hessian objects (header ++ buffer.take context.bodySize)
        (header.length + namesSize hessian buffer)).isSome := by
  obtain ⟨hsize, hgroup⟩ := parsedSize_of_deserializeRpcInvocation h
  rw [hheader, ← hsize]
  generalize header ++ buffer.take context.bodySize = bytes
  constructor
  · intro hsequential
    obtain ⟨n, value, hmem⟩ :=
      @RpcInvocationImpl.exists_ok _ hessian objects bytes hp (.new objects invocation) rfl
    rw [hsequential, List.map_replicate] at hmem
    have hvalue := List.eq_of_mem_replicate hmem
    cases hread : readParameters hessian objects bytes invocation.parsedSize with
    | some read => rfl
    | none =>
      rw [expected, hread] at hvalue
      cases hvalue
  · intro hread calls
    obtain ⟨⟨parameters, last⟩, hread⟩ := Option.isSome_iff_exists.mp hread
    exact RpcInvocationImpl.Decoded.outcomes hread hgroup calls .fresh

/-! ## Two bodies -/

theorem Hessian2.compact_progress : Hessian2.compact.Progress := by
  intro bytes value size h
  obtain ⟨hle, -⟩ := Hessian2.compact_local.decodeString h
  refine ⟨?_, hle⟩
  cases bytes with
  | nil => cases h
  | cons n rest =>
    simp only [Hessian2.compact, CompactHessian2.decodeString] at h
    split_ifs at h
    · cases h
      exact Nat.succ_pos _
    · cases h

namespace InvocationExample

/-- The version of the protocol, a service, its version, and a method. -/
def names : Bytes :=
  [5, 0x32, 0x2e, 0x30, 0x2e, 0x32, 1, 0x53, 0, 1, 0x6d]

/-- A header, which the invocation does not read. -/
def header : Bytes :=
  List.replicate messageSize 0

/-- The context of a body of so many bytes. -/
def context (bodySize : ℕ) : Context :=
  ⟨messageSize, bodySize, false, []⟩

/-- A call of `m` of the service `S`, with nothing read behind its parameters. -/
def invocation : RpcInvocation where
  serviceName := "S"
  methodName := "m"
  serviceVersion := some ""
  parsedSize := messageSize + 11

/-- An integer, and an attachment with a group. -/
def rest : Bytes :=
  [1, 0x49, 0x95, 0x48, 5, 0x67, 0x72, 0x6f, 0x75, 0x70, 1, 0x61, 0x5a]

/-- An integer is announced, but there is none. -/
def malformed : Bytes :=
  [1, 0x49, 0x51]

end InvocationExample

open InvocationExample in
theorem sequential_integer :
    Sequential Hessian2.compact Hessian2.compactObjects
      (header ++ (names ++ rest).take 24) (header.length + namesSize .compact (names ++ rest))
      invocation :=
  (@sequential_iff _ _ Hessian2.compact_progress Hessian2.compactObjects _ (context 24) _
    (by rfl) _ rfl).mpr (by decide +kernel)

open InvocationExample in
/-- The first call throws. The second one reads the types where the first one has stopped, finds
none, and returns no parameters. -/
theorem not_sequential_malformed :
    deserializeRpcInvocation .compact (names ++ malformed) (context 14) = .ok invocation ∧
      (RpcInvocationImpl.new Hessian2.compactObjects invocation).outcomes .compact
          (header ++ (names ++ malformed).take 14) [.parameters, .parameters] =
        [.error (.exception "Cannot parse RpcInvocation parameter from buffer"),
          .ok (.parameters [])] ∧
      ¬Sequential Hessian2.compact Hessian2.compactObjects
        (header ++ (names ++ malformed).take 14)
        (header.length + namesSize .compact (names ++ malformed)) invocation := by
  have houtcomes : (RpcInvocationImpl.new Hessian2.compactObjects invocation).outcomes .compact
      (header ++ (names ++ malformed).take 14) [.parameters, .parameters] =
        [.error (.exception "Cannot parse RpcInvocation parameter from buffer"),
          .ok (.parameters [])] := rfl
  refine ⟨by rfl, houtcomes, fun h => ?_⟩
  have hsecond := congrArg (fun outcomes => outcomes[1]?) ((houtcomes.symm.trans (h _)))
  revert hsecond
  rintro ⟨⟩

end MetaProtocolProxy.Dubbo
