import Reidentify.Artifact.File
import Reidentify.Proofs.Query.Faults

/-!
# Refusals of artifacts

A document that describes no artifact is refused with a fault of the document, which a command
reports to its user. There are two kinds of slots in a document whose value is used without being
looked at first: the access flags of a declaration, which are made an integer, and a reference to
a member, which is opened as an object even where the operation needs none. What goes wrong there
ends the reading with a fault of its own, and a file adds the faults of its text. Every other
refusal is reported.

## Main definitions

* `Document.Slot`: a value of a document that is used without a check.
* `Document.slots`: the slots of a document.
* `Document.Escapes`: the faults of some slots.
* `Artifact.EscapesFile`: the faults of the text of a file and of the slots of its document.
* `Judged`: a reading accepts, reports, or ends with a fault that escapes.

## Main statements

* `Value.ne_document_of_toInteger`: what cannot be made an integer is no fault of the document.
* `Document.judged_classes`: classes are read, reported, or a slot of theirs escapes.
* `Artifact.judged_ofValue_ofFile`: so are documents and files.
-/

namespace Reidentify

/-- A reading that is judged by the faults that escape it (`escapes`): it accepts where none of them
is there, it reports a fault of the document, or it ends with one of them. -/
inductive Judged {α : Type} (escapes : Fault → Prop) : Except Fault α → Prop
  /-- The reading accepts the value `a`, and no fault escapes it. -/
  | accepted (a : α) (h : ∀ fault, ¬ escapes fault) : Judged escapes (.ok a)
  /-- The reading reports the `cause` that is wrong with the document. -/
  | reported (cause : DocumentFault) : Judged escapes (.error (.document cause))
  /-- The reading ends with a `fault` that escapes it, which is no fault of the document. -/
  | escaped {fault : Fault} (h : escapes fault) (hother : ∀ cause, fault ≠ .document cause) :
    Judged escapes (.error fault)

namespace Judged

variable {α β : Type} {P Q : Fault → Prop}

theorem congr (h : ∀ fault, P fault ↔ Q fault) {result : Except Fault α}
    (hresult : Judged P result) : Judged Q result := by
  cases hresult with
  | accepted a hnone => exact .accepted a fun fault hq => hnone fault ((h fault).2 hq)
  | reported cause => exact .reported cause
  | escaped hp hother => exact .escaped ((h _).1 hp) hother

/-- Of two readings `x` and `f` that follow each other, what escapes one of them escapes both. -/
theorem bind {x : Except Fault α} {f : α → Except Fault β} (hx : Judged P x)
    (hf : ∀ a, x = .ok a → Judged Q (f a)) :
    Judged (fun fault => P fault ∨ Q fault) (x >>= f) := by
  cases hx with
  | accepted a hnone =>
    -- the second reading decides, as nothing escapes the first
    refine (hf a rfl).congr fun fault => ?_
    simp [hnone fault]
  | reported cause => exact .reported cause
  | escaped hp hother => exact .escaped (.inl hp) hother

end Judged

/-- Where `toInteger` fails, its `fault` is no fault of the document. -/
theorem Value.ne_document_of_toInteger {given : Value} {fault : Fault}
    (h : given.toInteger = .error fault) (cause : DocumentFault) : fault ≠ .document cause := by
  rintro rfl
  unfold toInteger at h
  repeat' split at h
  all_goals simp_all

namespace Document

/-- A value `given` in a document that is used without a check. -/
inductive Slot where
  /-- The access flags of a declaration, which `toInteger` makes an integer. -/
  | access (given : Value)
  /-- The reference of an instruction to a member, which is opened as an object. -/
  | reference (given : Value)

/-- The fault of a slot whose value `given` cannot be used. -/
inductive Slot.Fails : Slot → Fault → Prop
  /-- The access flags are no integer, and the `fault` is the one of `toInteger`. -/
  | access {given fault} (h : given.toInteger = .error fault) : Fails (.access given) fault
  /-- The reference counts as true (`isTruthy`), but it is no object. -/
  | reference {given} (htrue : given.isTruthy = true) (hmembers : given.members? = none) :
    Fails (.reference given) .noAttribute

/-- A `fault` that escapes because one of some `slots` fails with it (`Slot.Fails`). -/
def Escapes (slots : List Slot) (fault : Fault) : Prop :=
  ∃ slot ∈ slots, slot.Fails fault

/-- The items of the list under a `key` of an object, none if there is no such list. -/
def itemsOf (members : List (String × Value)) (key : String) : List Value :=
  ((valueOr members key (.list [])).items?).getD []

/-- The slots of an instruction: what stands under `"field"` and under `"method"`. -/
def instructionSlots : Value → List Slot
  | .obj members =>
    [.reference (Value.member members "field"), .reference (Value.member members "method")]
  | _ => []

/-- The only slot of a field: what stands under `"access"`, or zero. -/
def fieldSlots : Value → List Slot
  | .obj members => [.access (valueOr members "access" (.int 0))]
  | _ => []

/-- The slots of a method: those of its instructions, and what stands under `"access"`. -/
def methodSlots : Value → List Slot
  | .obj members =>
    (itemsOf members "instructions").flatMap instructionSlots
      ++ [.access (valueOr members "access" (.int 0))]
  | _ => []

/-- The slots of a class: those of its fields and of its methods, and what stands under `"access"`.
-/
def classSlots : Value → List Slot
  | .obj members =>
    (itemsOf members "fields").flatMap fieldSlots
      ++ (itemsOf members "methods").flatMap methodSlots
      ++ [.access (valueOr members "access" (.int AccessFlag.isPublic.weight))]
  | _ => []

/-- The slots of a whole document: those of all its classes (`classSlots`). -/
def slots : Value → List Slot
  | .obj members => (((Value.member members "classes").items?).getD []).flatMap classSlots
  | _ => []

@[simp] theorem not_escapes_nil (fault : Fault) : ¬ Escapes [] fault := by
  simp [Escapes]

@[simp] theorem escapes_append {xs ys : List Slot} {fault : Fault} :
    Escapes (xs ++ ys) fault ↔ Escapes xs fault ∨ Escapes ys fault := by
  simp [Escapes, or_and_right, exists_or]

@[simp] theorem escapes_singleton {slot : Slot} {fault : Fault} :
    Escapes [slot] fault ↔ slot.Fails fault := by
  simp [Escapes]

section Judgements

variable {α β : Type}

/-- Of two readings `x` and `f` that follow each other, the slots are the slots `xs ++ ys` of both.
-/
theorem judged_bind {xs ys : List Slot} {x : Except Fault α} {f : α → Except Fault β}
    (hx : Judged (Escapes xs) x) (hf : ∀ a, x = .ok a → Judged (Escapes ys) (f a)) :
    Judged (Escapes (xs ++ ys)) (x >>= f) :=
  (hx.bind hf).congr fun _ => escapes_append.symm

/-- A reading `x` without slots leaves the slots of the reading `f` that follows it. -/
theorem judged_bind_nil {ys : List Slot} {x : Except Fault α} {f : α → Except Fault β}
    (hx : Judged (Escapes []) x) (hf : ∀ a, x = .ok a → Judged (Escapes ys) (f a)) :
    Judged (Escapes ys) (x >>= f) :=
  judged_bind hx hf

theorem judged_ok (a : α) : Judged (Escapes []) (.ok a : Except Fault α) :=
  .accepted a not_escapes_nil

/-- Nothing is read after a reading `x` whose value is only put into its place by `f`. -/
theorem judged_map {xs : List Slot} {x : Except Fault α} (f : α → β) (hx : Judged (Escapes xs) x) :
    Judged (Escapes xs) (x >>= fun a => .ok (f a)) := by
  rw [← List.append_nil xs]
  exact judged_bind hx fun a _ => judged_ok (f a)

theorem judged_textOf (members : List (String × Value)) (key place : String) :
    Judged (Escapes []) (textOf members key place) := by
  unfold textOf
  split
  · exact judged_ok _
  · exact .reported _

theorem judged_listOf (members : List (String × Value)) (key place : String) :
    Judged (Escapes []) (listOf members key place) := by
  unfold listOf
  split
  · exact judged_ok _
  · exact .reported _

/-- A list that `listOf` reads has the items `itemsOf` of its `key`. -/
theorem itemsOf_of_listOf {members : List (String × Value)} {key place : String}
    {items : List Value} (h : listOf members key place = .ok items) :
    itemsOf members key = items := by
  unfold listOf at h
  split at h
  · next heq =>
    cases h
    simp [itemsOf, heq, Value.items?]
  · cases h

/-- The access flags `given` are the one slot of their own reading. -/
theorem judged_access (given : Value) : Judged (Escapes [.access given]) given.toInteger := by
  cases hgiven : given.toInteger with
  | error fault =>
    exact .escaped (escapes_singleton.2 (.access hgiven)) (Value.ne_document_of_toInteger hgiven)
  | ok access =>
    refine .accepted access fun fault h => ?_
    cases escapes_singleton.1 h with
    | access h => simp [hgiven] at h

/-- A reference `given` is the one slot of its own reading `memberRef`. -/
theorem judged_memberRef (given : Value) :
    Judged (Escapes [.reference given]) (memberRef given) := by
  unfold memberRef
  split
  · next hfalse =>
    refine .accepted _ fun fault h => ?_
    cases escapes_singleton.1 h with
    | reference htrue _ => simp [htrue] at hfalse
  · next htrue =>
    split
    · refine .accepted _ fun fault h => ?_
      cases escapes_singleton.1 h with
      | reference _ hmembers => simp [Value.members?] at hmembers
    · next hother =>
      refine .escaped (escapes_singleton.2 (.reference (by simpa using htrue) ?_)) (by simp)
      cases given with
      | obj members => exact absurd rfl (hother members)
      | _ => rfl

/-- A list that is read by `readEach` is judged by the slots of its `items`, one after the other. -/
theorem judged_readEach {read : Nat → Value → Except Fault α} {slotsOf : Value → List Slot}
    (h : ∀ position item, Judged (Escapes (slotsOf item)) (read position item)) (position : Nat)
    (items : List Value) :
    Judged (Escapes (items.flatMap slotsOf)) (readEach read position items) := by
  -- by induction on the list, as the slots of the first item come first
  induction items generalizing position with
  | nil => exact judged_ok []
  | cons item rest ih =>
    rw [List.flatMap_cons]
    exact judged_bind (h position item) fun first _ => judged_map _ (ih (position + 1))

theorem judged_instruction (owner method descriptor : String) (index : Nat) (document : Value) :
    Judged (Escapes (instructionSlots document))
      (instruction owner method descriptor index document) := by
  unfold instruction
  cases document with
  | obj members =>
    dsimp only
    split
    · exact .reported _
    · split
      · exact .reported _
      · split
        · exact .reported _
        · exact judged_bind (judged_memberRef _) fun _ _ => judged_map _ (judged_memberRef _)
  | _ => exact .reported _

theorem judged_field (owner : String) (document : Value) :
    Judged (Escapes (fieldSlots document)) (field owner document) := by
  unfold field
  cases document with
  | obj members =>
    refine judged_bind_nil (judged_textOf ..) fun name _ => ?_
    refine judged_bind_nil (judged_textOf ..) fun descriptor _ => ?_
    split
    · exact judged_map _ (judged_access _)
    · exact .reported _
  | _ => exact .reported _

theorem judged_method (owner : String) (document : Value) :
    Judged (Escapes (methodSlots document)) (method owner document) := by
  unfold method
  cases document with
  | obj members =>
    refine judged_bind_nil (judged_textOf ..) fun name _ => ?_
    refine judged_bind_nil (judged_textOf ..) fun descriptor _ => ?_
    split
    · refine judged_bind_nil (judged_listOf ..) fun body hbody => ?_
      rw [methodSlots, itemsOf_of_listOf hbody]
      refine judged_bind (judged_readEach (judged_instruction owner name descriptor) 0 body)
        fun _ _ => ?_
      exact judged_map _ (judged_access _)
    · exact .reported _
  | _ => exact .reported _

theorem judged_classDecl (position : Nat) (document : Value) :
    Judged (Escapes (classSlots document)) (classDecl position document) := by
  unfold classDecl
  cases document with
  | obj members =>
    refine judged_bind_nil (judged_textOf ..) fun name _ => ?_
    refine judged_bind_nil (judged_listOf ..) fun interfaceValues _ => ?_
    split
    · exact .reported _
    · refine judged_bind_nil (judged_listOf ..) fun fieldValues hfields => ?_
      rw [classSlots, itemsOf_of_listOf hfields, List.append_assoc]
      refine judged_bind (judged_readEach (fun _ => judged_field name) 0 fieldValues) fun _ _ => ?_
      refine judged_bind_nil (judged_listOf ..) fun methodValues hmethods => ?_
      rw [itemsOf_of_listOf hmethods]
      refine judged_bind (judged_readEach (fun _ => judged_method name) 0 methodValues)
        fun _ _ => ?_
      exact judged_map _ (judged_access _)
  | _ => exact .reported _

/-- Classes are read, or the first thing that is wrong is reported or escapes from a slot
(`classSlots`). -/
theorem judged_classes (position : Nat) (seen : List String) (documents : List Value) :
    Judged (Escapes (documents.flatMap classSlots)) (classes position seen documents) := by
  -- by induction on the documents; the names that have been `seen` only matter for a report
  induction documents generalizing position seen with
  | nil => exact judged_ok []
  | cons document rest ih =>
    rw [List.flatMap_cons]
    refine judged_bind (judged_classDecl position document) fun decl _ => ?_
    split
    · exact .reported _
    · exact judged_map _ (ih (position + 1) (decl.name :: seen))

end Judgements

end Document

namespace Artifact

/-- The reading `ofValue` of a `document` is judged by its `slots`. -/
theorem judged_ofValue (document : Value) :
    Judged (Document.Escapes (Document.slots document)) (ofValue document) := by
  unfold ofValue
  cases document with
  | obj members =>
    dsimp only [Document.slots]
    split
    · next items heq =>
      rw [heq, Value.items?, Option.getD_some]
      exact Document.judged_map _ (Document.judged_classes 0 [] items)
    · exact .reported _
  | _ => exact .reported _

/-- The faults that escape the reading of a file: those of the text of its `bytes`, and those of the
slots of its document. -/
inductive EscapesFile (bytes : ByteArray) : Fault → Prop
  /-- The `bytes` are no text. -/
  | encoding (h : String.fromUTF8? bytes = none) : EscapesFile bytes .encoding
  /-- The `text` is nested too deeply for `Json.read`. -/
  | tooDeep {text} (htext : String.fromUTF8? bytes = some text)
      (h : Json.read (String.ofList (unifyLineEnds text.toList)) = .error .tooDeep) :
    EscapesFile bytes .tooDeep
  /-- The `text` has an integer with too many `digits`. -/
  | tooManyDigits {text digits} (htext : String.fromUTF8? bytes = some text)
      (h : Json.read (String.ofList (unifyLineEnds text.toList))
        = .error (.integerTooLong digits)) :
    EscapesFile bytes (.value (.tooManyDigits digits))
  /-- The `text` is a `document` with a slot that fails (`Slot.Fails`). -/
  | slot {text document fault} (htext : String.fromUTF8? bytes = some text)
      (h : Json.read (String.ofList (unifyLineEnds text.toList)) = .ok document)
      (hslot : Document.Escapes (Document.slots document) fault) :
    EscapesFile bytes fault

/-- A file is judged by the text of its `bytes` and by the slots of its document (`EscapesFile`). -/
theorem judged_ofBytes (path : String) (bytes : ByteArray) :
    Judged (EscapesFile bytes) (ofBytes path bytes) := by
  unfold ofBytes
  split
  · next text htext =>
    unfold ofText
    dsimp only
    split
    · next document hread =>
      -- the text is a document, so that nothing but its slots can escape
      refine (judged_ofValue document).congr fun fault => ⟨.slot htext hread, fun h => ?_⟩
      cases h with
      | encoding h => simp [htext] at h
      | tooDeep hother h | tooManyDigits hother h =>
        cases htext.symm.trans hother
        simp [hread] at h
      | slot hother h hslot =>
        cases htext.symm.trans hother
        cases hread.symm.trans h
        exact hslot
    · exact .reported _
    · next hread => exact .escaped (.tooDeep htext hread) (by simp)
    · next hread => exact .escaped (.tooManyDigits htext hread) (by simp)
  · next htext => exact .escaped (.encoding htext) (by simp)

/-- Every `document` and every file that is there is accepted, or its fault is reported, or it ends
with the fault of a slot that is used without a check (`Slot.Fails`), or with a fault of the text of
the file (`EscapesFile`). No document is accepted with a slot that fails. -/
theorem judged_ofValue_ofFile (document : Value) (path : String) (bytes : ByteArray) :
    Judged (Document.Escapes (Document.slots document)) (ofValue document) ∧
      Judged (EscapesFile bytes) (ofFile path (some bytes)) :=
  ⟨judged_ofValue document, judged_ofBytes path bytes⟩

/-- So not every refusal is reported: access flags that are absent, a text in place of a reference
that the operation does not need, and the byte `0xff`, which starts no character. -/
theorem exists_ofValue_ofFile_unreported :
    ofValue (.obj [("classes", .list [.obj [("name", .str "a"), ("access", .null)]])])
        = .error .wrongType ∧
      ofValue (.obj [("classes", .list [.obj [("name", .str "a"), ("methods", .list
        [.obj [("name", .str "m"), ("descriptor", .str "()V"), ("instructions", .list
          [.obj [("opcode", .int 0), ("field", .str "f")]])]])]])])
        = .error .noAttribute ∧
      ofFile "model.json" (some ⟨#[0xff]⟩) = .error .encoding := by
  refine ⟨?_, ?_, ?_⟩
  · decide +kernel
  · decide +kernel
  · decide +kernel

end Artifact

end Reidentify
