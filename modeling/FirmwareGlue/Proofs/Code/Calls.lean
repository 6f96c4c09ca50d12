import FirmwareGlue.Proofs.Code.Text

/-!
# What generated functions call

The functions that a list of items defines, and the calls that stand in their bodies, in the order
of the text. Items of the other forms call nothing.
-/

namespace FirmwareGlue.Code

def Value.calls : Value → List Call
  | symbol _ => []
  | call c => [c]

/-- The calls of an action. The receiver of a result is given that result and nothing else, and is
not listed. -/
def Action.calls : Action → List Call
  | store _ value => value.calls
  | perform c => [c]
  | pass _ c => [c]
  | give value => value.calls

/-- The calls of a statement, those of both branches included. -/
def Statement.calls : Statement → List Call
  | declare _ _ => []
  | act action => action.calls
  | branch _ yes no => yes.flatMap Action.calls ++ no.flatMap Action.calls
  | blank => []

theorem Value.call_within {v : Value} {c : Call} (h : c ∈ v.calls) : Within c.text v.text := by
  cases v with
  | symbol _ => cases h
  | call other =>
      cases List.mem_singleton.1 h
      exact .refl _

theorem Action.call_within {a : Action} {c : Call} (h : c ∈ a.calls) : Within c.text a.text := by
  cases a with
  | store target value => exact ((Value.call_within h).behind _).before _
  | perform other =>
      cases List.mem_singleton.1 h
      exact (Within.refl _).before _
  | pass receiver other =>
      cases List.mem_singleton.1 h
      exact ((Within.refl _).behind _).before _
  | give value => exact ((Value.call_within h).behind _).before _

theorem blockText_within {actions : List Action} {c : Call}
    (h : c ∈ actions.flatMap Action.calls) : Within c.text (blockText actions) := by
  obtain ⟨a, member, called⟩ := List.mem_flatMap.1 h
  have line : Within a.text ("    " ++ a.text ++ "\n") := ((Within.refl _).behind _).before _
  exact ((Action.call_within called).trans line).trans
    (.concat (List.mem_map_of_mem (f := fun a : Action => "    " ++ a.text ++ "\n") member))

theorem Statement.call_within {s : Statement} {c : Call} (h : c ∈ s.calls) :
    Within c.text s.text := by
  cases s with
  | declare _ _ => cases h
  | act action => exact ((Action.call_within h).behind _).before _
  | branch condition yes no =>
      rcases List.mem_append.1 h with inYes | inNo
      · have block := blockText_within inYes
        cases no with
        | nil => exact (block.behind _).before _
        | cons _ _ => exact (((block.behind _).before _).before _).before _
      · have block := blockText_within inNo
        cases no with
        | nil => cases inNo
        | cons _ _ => exact (block.behind _).before _
  | blank => cases h

/-- The text of a call stands in the text of the function that it is made in. -/
theorem Item.call_within {head : Signature} {body : List Statement} {c : Call}
    (h : c ∈ body.flatMap Statement.calls) : Within c.text (Item.function head body).text := by
  obtain ⟨s, member, called⟩ := List.mem_flatMap.1 h
  exact (((Statement.call_within called).trans
    (.concat (List.mem_map_of_mem (f := Statement.text) member))).behind _).before _

structure Definition where
  head : Signature
  body : List Statement
  deriving DecidableEq

@[simp] def Item.definition? : Item → Option Definition
  | function head body => some ⟨head, body⟩
  | _ => none

def definitions (items : List Item) : List Definition :=
  items.filterMap Item.definition?

/-- The functions of one name that some items define. -/
def definitionsOf (items : List Item) (name : String) : List Definition :=
  (definitions items).filter fun d => d.head.name = name

@[simp] theorem definitions_append (first second : List Item) :
    definitions (first ++ second) = definitions first ++ definitions second :=
  List.filterMap_append

@[simp] theorem definitions_nil : definitions [] = [] := rfl

@[simp] theorem definitions_cons (item : Item) (rest : List Item) :
    definitions (item :: rest) = item.definition?.toList ++ definitions rest := by
  cases h : item.definition? with
  | none => exact List.filterMap_cons_none h
  | some d => exact List.filterMap_cons_some h

theorem mem_definitions_iff {items : List Item} {head : Signature} {body : List Statement} :
    ⟨head, body⟩ ∈ definitions items ↔ Item.function head body ∈ items := by
  rw [definitions, List.mem_filterMap]
  constructor
  · rintro ⟨item, member, defines⟩
    cases item <;> cases defines
    exact member
  · intro member
    exact ⟨_, member, rfl⟩

/-- Whether an item makes neither a function nor a variable of the file. -/
@[simp] def Item.isBare : Item → Bool
  | staticVariable _ _ _ => false
  | function _ _ => false
  | _ => true

def Bare (items : List Item) : Prop :=
  ∀ item ∈ items, item.isBare = true

namespace Bare

variable {items more : List Item}

theorem append (first : Bare items) (second : Bare more) : Bare (items ++ more) :=
  List.forall_mem_append.2 ⟨first, second⟩

theorem definitions (h : Bare items) : definitions items = [] := by
  apply List.filterMap_eq_nil_iff.2
  intro item member
  cases item with
  | function _ _ => cases h _ member
  | _ => rfl

end Bare

end FirmwareGlue.Code
