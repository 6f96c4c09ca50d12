import FirmwareGlue.Proofs.Glue.Functions

/-!
# Declarations and what they are for

Generated functions call functions of other files, and generated tables refer to objects and
callbacks of other files. Each of these has to be declared first, and in the form in which it is
used. A list of items is linked if it is made of sections, each of which declares some symbols and
ends with the one item that uses them: the first declaration is for the first uses, the second for
the next ones, and so on. Then nothing is used without its declaration before it, and nothing is
declared in vain.
-/

namespace FirmwareGlue.Glue

open Code

/-- The calls in a body to what other modules and libraries define. -/
def externalCalls (body : List Statement) : List Call :=
  (body.flatMap Statement.calls).filter (· ∉ ownCalls)

/-- A use of what another file defines. -/
inductive Use where
  /-- A table refers to an object. -/
  | object (type name : String)
  /-- A table lists the callback of an event. -/
  | callback (name : String)
  /-- A function with this head calls another one. -/
  | call (inside : Signature) (c : Call)
  deriving DecidableEq

/-- The variable or constant that is passed, if it is one. -/
def nameOf? : Argument → Option String
  | .symbol name => some name
  | _ => none

/-- A use as it is written: the address of an object, the line of a callback, or a call that passes
names. -/
def Use.text : Use → String
  | object _ name => "&" ++ name
  | callback name => "  " ++ name ++ ",\n"
  | call _ c => c.callee ++ " (" ++ String.intercalate ", " (c.arguments.filterMap nameOf?) ++ ")"

/-- The entries in one column of the driver-model table. -/
def column (rows : List BindingRow) (place : Nat) : List String :=
  rows.filterMap fun row => row.others[place]?.join

/-- What an item uses. The driver-model table is read column by column. -/
def uses : Item → List Use
  | .bindingTable rows =>
    rows.map (fun row => .object "EFI_DRIVER_BINDING_PROTOCOL" row.binding) ++
      DriverModelGroup.all.zipIdx.flatMap fun entry =>
        (column rows entry.2).map (.object entry.1.protocolType)
  | .callbackTable _ callbacks => callbacks.map .callback
  | .function head body => (externalCalls body).map (.call head)
  | _ => []

theorem binding_within (row : BindingRow) : Within ("&" ++ row.binding) row.text := by
  have start : "  \x7b\n    " ++ ("&" ++ row.binding) = "  \x7b\n    &" ++ row.binding :=
    (String.append_assoc ..).symm
  rw [BindingRow.text, ← start]
  exact (((Within.refl _).behind _).before _).before _

theorem entry_within {row : BindingRow} {name : String} (h : some name ∈ row.others) :
    Within ("&" ++ name) row.text := by
  have line : Within ("&" ++ name) (",\n    " ++ objectText (some name)) :=
    (Within.refl _).behind _
  have lines : Within ("&" ++ name)
      (concat (row.others.map fun other => ",\n    " ++ objectText other)) :=
    line.trans (.concat (List.mem_map_of_mem (f := fun other => ",\n    " ++ objectText other) h))
  exact (lines.behind _).before _

def isDeclaration : Item → Bool
  | .externObject _ _ => true
  | .prototype _ => true
  | _ => false

/-- An item is the declaration for a use. An object has the type of its column, and a callback the
form of all callbacks. A call passes as many arguments as the function has parameters, and each of
them is a parameter of the function that the call stands in. -/
def Declares : Item → Use → Prop
  | .externObject type name, .object usedType usedName => type = usedType ∧ name = usedName
  | .prototype head, .callback name => head = ⟨"VOID", name, eventParameters⟩
  | .prototype head, .call inside c =>
    head.name = c.callee ∧ c.arguments.length = head.parameters.entries.length ∧
      ∀ a ∈ c.arguments, ∃ p ∈ inside.parameters.entries, a = .symbol p.name
  | _, _ => False

theorem Declares.isDeclaration {item : Item} {use : Use} (h : Declares item use) :
    isDeclaration item = true := by
  unfold Declares at h
  split at h
  · rfl
  · rfl
  · rfl
  · cases h

/-- What is declared for a call passes names, so it is written with them. -/
theorem Declares.call_text {item : Item} {inside : Signature} {c : Call}
    (h : Declares item (.call inside c)) : (Use.call inside c).text = c.text := by
  have symbols : ∀ a ∈ c.arguments, ∃ p ∈ inside.parameters.entries, a = .symbol p.name := by
    cases item with
    | prototype head => exact h.2.2
    | _ => exact h.elim
  have names : c.arguments.filterMap nameOf? = c.arguments.map Argument.text := by
    rw [← List.filterMap_eq_map]
    apply List.filterMap_congr
    intro a member
    obtain ⟨p, _, rfl⟩ := symbols a member
    rfl
  rw [Use.text, Call.text, names]

/-- The text of a use stands in the text of the item that it is a use of, if something is declared
for it. -/
theorem use_within {item d : Item} {use : Use} (h : use ∈ uses item) (declares : Declares d use) :
    Within use.text item.text := by
  unfold uses at h
  split at h
  case h_1 rows =>
    have ofRow {row : BindingRow} (member : row ∈ rows) :
        Within row.text (Item.bindingTable rows).text :=
      ((Within.intercalate ",\n" (List.mem_map_of_mem (f := BindingRow.text) member)).behind
        _).before _
    rcases List.mem_append.1 h with inFirst | inColumn
    · obtain ⟨row, member, rfl⟩ := List.mem_map.1 inFirst
      exact (binding_within row).trans (ofRow member)
    · obtain ⟨⟨group, place⟩, _, inColumn⟩ := List.mem_flatMap.1 inColumn
      obtain ⟨name, entry, rfl⟩ := List.mem_map.1 inColumn
      obtain ⟨row, member, found⟩ := List.mem_filterMap.1 entry
      have listed : some name ∈ row.others :=
        List.mem_of_getElem? (Option.join_eq_some_iff.1 found)
      exact (entry_within listed).trans (ofRow member)
  case h_2 table callbacks =>
    obtain ⟨name, member, rfl⟩ := List.mem_map.1 h
    exact ((Within.concat (List.mem_map_of_mem (f := fun c => "  " ++ c ++ ",\n") member)).behind
      _).before _
  case h_3 head body =>
    obtain ⟨c, called, rfl⟩ := List.mem_map.1 h
    rw [declares.call_text]
    exact Item.call_within (List.mem_filter.1 called).1
  case h_4 => cases h

/-- The parameters of a prototype, one a line. -/
def parametersText (list : ParameterList) : String :=
  if list.entries = [] then "VOID"
  else String.intercalate ",\n  " (list.entries.map fun p =>
    "IN " ++ p.type ++ "".pushn ' ' (list.column - p.type.length) ++ "".pushn '*' p.pointers
      ++ p.name)

/-- The text that declares what another file defines. -/
def declarationText : Item → String
  | .externObject type name => "extern " ++ type ++ "  " ++ name ++ ";\n"
  | .prototype head =>
    head.returns ++ "\nEFIAPI\n" ++ head.name ++ " (\n  " ++ parametersText head.parameters ++
      "\n  );\n\n"
  | _ => ""

theorem intercalate_lines (list : ParameterList) :
    String.intercalate ",\n  " list.lines = parametersText list := by
  rw [ParameterList.lines, parametersText]
  split
  case h_1 nothing => rw [if_pos nothing, String.intercalate_singleton]
  case h_2 something => rw [if_neg something]

theorem text_of_isDeclaration {item : Item} (h : isDeclaration item = true) :
    item.text = declarationText item := by
  unfold isDeclaration at h
  split at h
  case h_1 => rfl
  case h_2 head =>
    have close : "\n  )" ++ ";\n\n" = "\n  );\n\n" := rfl
    simp only [declarationText, Item.text, Signature.text, intercalate_lines, String.append_assoc,
      close]
  case h_3 => cases h

theorem uses_of_isDeclaration {item : Item} (h : isDeclaration item = true) : uses item = [] := by
  unfold isDeclaration at h
  split at h
  · rfl
  · rfl
  · cases h

/-- Some declarations are for some uses, in the same order: each is for at least one, and the next
declaration is for the uses that follow. -/
inductive Matched : List Item → List Use → Prop where
  | nil : Matched [] []
  | cons {d : Item} {group used : List Use} {declared : List Item} (needed : group ≠ [])
      (declares : ∀ use ∈ group, Declares d use) (rest : Matched declared used) :
      Matched (d :: declared) (group ++ used)

namespace Matched

variable {α : Type} {declared more : List Item} {used others : List Use}

theorem append (first : Matched declared used) (second : Matched more others) :
    Matched (declared ++ more) (used ++ others) := by
  induction first with
  | nil => exact second
  | cons needed declares _ ih =>
      rw [List.append_assoc]
      exact .cons needed declares ih

theorem flatten {l : List α} {declaredFor : α → List Item} {usesOf : α → List Use}
    (each : ∀ x ∈ l, Matched (declaredFor x) (usesOf x)) :
    Matched (l.flatMap declaredFor) (l.flatMap usesOf) := by
  induction l with
  | nil => exact .nil
  | cons x rest ih =>
      rw [List.flatMap_cons, List.flatMap_cons]
      apply (each x List.mem_cons_self).append
      apply ih
      intro y member
      exact each y (List.mem_cons_of_mem x member)

/-- Declarations that are made for the entries of a list, each with the uses of its entry. -/
theorem flatMap {l : List α} {declaration : α → Item} {usesOf : α → List Use}
    (needed : ∀ x ∈ l, usesOf x ≠ [])
    (declares : ∀ x ∈ l, ∀ use ∈ usesOf x, Declares (declaration x) use) :
    Matched (l.map declaration) (l.flatMap usesOf) := by
  rw [List.map_eq_flatMap]
  apply flatten
  intro x member
  rw [← List.append_nil (usesOf x)]
  exact .cons (needed x member) (declares x member) .nil

theorem map {l : List α} {declaration : α → Item} {use : α → Use}
    (declares : ∀ x ∈ l, Declares (declaration x) (use x)) :
    Matched (l.map declaration) (l.map use) := by
  rw [List.map_eq_flatMap (f := use)]
  apply flatMap
  · simp
  · intro x member u single
    cases List.mem_singleton.1 single
    exact declares x member

theorem exists_use (h : Matched declared used) {d : Item} (member : d ∈ declared) :
    ∃ use ∈ used, Declares d use := by
  induction h with
  | nil => cases member
  | @cons first group _ _ needed declares _ ih =>
      rcases List.mem_cons.1 member with rfl | later
      · obtain ⟨use, inGroup⟩ := List.exists_mem_of_ne_nil group needed
        exact ⟨use, List.mem_append_left _ inGroup, declares use inGroup⟩
      · obtain ⟨use, inRest, itDeclares⟩ := ih later
        exact ⟨use, List.mem_append_right _ inRest, itDeclares⟩

theorem exists_declaration (h : Matched declared used) {use : Use} (member : use ∈ used) :
    ∃ d ∈ declared, Declares d use := by
  induction h with
  | nil => cases member
  | @cons first group _ _ _ declares _ ih =>
      rcases List.mem_append.1 member with inGroup | later
      · exact ⟨first, List.mem_cons_self, declares use inGroup⟩
      · obtain ⟨d, inRest, itDeclares⟩ := ih later
        exact ⟨d, List.mem_cons_of_mem first inRest, itDeclares⟩

/-- Nothing is declared for no use. -/
theorem eq_nil (h : Matched declared []) : declared = [] := by
  generalize none : ([] : List Use) = used at h
  cases h with
  | nil => rfl
  | cons needed _ _ => exact absurd (List.append_eq_nil_iff.1 none.symm).1 needed

theorem isDeclaration (h : Matched declared used) : ∀ d ∈ declared, isDeclaration d = true := by
  intro d member
  obtain ⟨use, _, declares⟩ := h.exists_use member
  exact declares.isDeclaration

/-- Declarations are written as such, one after another. -/
theorem itemsText (h : Matched declared used) :
    itemsText declared = concat (declared.map declarationText) := by
  rw [Code.itemsText]
  congr 1
  apply List.map_congr_left
  intro d member
  exact text_of_isDeclaration (h.isDeclaration d member)

end Matched

/-- An item that stands for itself: it neither declares nor uses what another file defines. -/
def Plain (item : Item) : Prop :=
  isDeclaration item = false ∧ uses item = []

/-- A list of items in sections: declarations, then items that stand for themselves, and the item
with the uses that the declarations are for. -/
inductive Linked : List Item → Prop where
  | nil : Linked []
  | plain {item : Item} {rest : List Item} (itself : Plain item) (later : Linked rest) :
      Linked (item :: rest)
  | section {declared between : List Item} {user : Item} {rest : List Item}
      (matched : Matched declared (uses user)) (plain : ∀ item ∈ between, Plain item)
      (noDeclaration : isDeclaration user = false) (later : Linked rest) :
      Linked (declared ++ between ++ user :: rest)

namespace Linked

variable {items more : List Item}

theorem append (first : Linked items) (second : Linked more) : Linked (items ++ more) := by
  induction first with
  | nil => exact second
  | plain itself _ ih => exact .plain itself ih
  | «section» matched plain noDeclaration _ ih =>
      rw [List.append_assoc, List.cons_append]
      exact .section matched plain noDeclaration ih

theorem of_plain (h : ∀ item ∈ items, Plain item) : Linked items := by
  induction items with
  | nil => exact .nil
  | cons item rest ih =>
      refine .plain (h item List.mem_cons_self) (ih ?_)
      intro other member
      exact h other (List.mem_cons_of_mem item member)

/-- Where an entry stands with respect to another one: behind it, in its place or in front of it. -/
theorem split_cases {α : Type} {front rest before after : List α} {last x : α}
    (split : front ++ last :: rest = before ++ x :: after) :
    (∃ more, before = front ++ last :: more ∧ rest = more ++ x :: after) ∨
      (before = front ∧ x = last) ∨ (x ∈ front ∧ last ∈ after) := by
  rcases List.append_eq_append_iff.1 split with ⟨more, rfl, tail⟩ | ⟨more, rfl, tail⟩
  · cases more with
    | nil => exact .inr (.inl ⟨List.append_nil front, (List.cons.inj tail).1.symm⟩)
    | cons first more =>
        obtain ⟨rfl, behind⟩ := List.cons.inj tail
        exact .inl ⟨more, rfl, behind⟩
  · cases more with
    | nil => exact .inr (.inl ⟨(List.append_nil before).symm, (List.cons.inj tail).1⟩)
    | cons first more =>
        obtain ⟨rfl, rfl⟩ := List.cons.inj tail
        exact .inr (.inr ⟨by simp, by simp⟩)

/-- What an item uses is declared by the items before it, in the same order, and no other
declaration stands between. -/
theorem declarations_before (h : Linked items) :
    ∀ before user after, items = before ++ user :: after → uses user ≠ [] →
      ∃ outer declared between, before = outer ++ declared ++ between ∧
        Matched declared (uses user) ∧ ∀ item ∈ between, Plain item := by
  induction h with
  | nil =>
      intro before user after split
      simp at split
  | @plain item rest itself _ ih =>
      intro before user after split needs
      rw [← List.nil_append (item :: rest)] at split
      rcases split_cases split with ⟨front, rfl, behind⟩ | ⟨_, rfl⟩ | ⟨no, _⟩
      · obtain ⟨outer, declared, between, rfl, found⟩ := ih front user after behind needs
        exact ⟨item :: outer, declared, between, rfl, found⟩
      · exact absurd itself.2 needs
      · cases no
  | @«section» declared between last rest matched plain _ _ ih =>
      intro before user after split needs
      rcases split_cases split with ⟨front, rfl, behind⟩ | ⟨rfl, rfl⟩ | ⟨inFront, _⟩
      · obtain ⟨outer, others, middle, rfl, found⟩ := ih front user after behind needs
        exact ⟨declared ++ between ++ last :: outer, others, middle, by simp, found⟩
      · exact ⟨[], declared, between, rfl, matched, plain⟩
      · rcases List.mem_append.1 inFront with inDeclared | inBetween
        · exact absurd (uses_of_isDeclaration (matched.isDeclaration _ inDeclared)) needs
        · exact absurd (plain _ inBetween).2 needs

/-- What is declared is used by a later item. -/
theorem use_after (h : Linked items) :
    ∀ before d after, items = before ++ d :: after → isDeclaration d = true →
      ∃ user ∈ after, ∃ use ∈ uses user, Declares d use := by
  induction h with
  | nil =>
      intro before d after split
      simp at split
  | @plain item rest itself _ ih =>
      intro before d after split declares
      rw [← List.nil_append (item :: rest)] at split
      rcases split_cases split with ⟨front, _, behind⟩ | ⟨_, rfl⟩ | ⟨no, _⟩
      · exact ih front d after behind declares
      · exact absurd declares (by simp [itself.1])
      · cases no
  | @«section» declared between last rest matched plain noDeclaration _ ih =>
      intro before d after split declares
      rcases split_cases split with ⟨front, _, behind⟩ | ⟨_, rfl⟩ | ⟨inFront, behind⟩
      · exact ih front d after behind declares
      · exact absurd declares (by simp [noDeclaration])
      · rcases List.mem_append.1 inFront with inDeclared | inBetween
        · exact ⟨last, behind, matched.exists_use inDeclared⟩
        · exact absurd declares (by simp [(plain _ inBetween).1])

end Linked

end FirmwareGlue.Glue
