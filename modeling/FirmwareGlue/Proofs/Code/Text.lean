import FirmwareGlue.Code.Item

/-!
# Texts one after another

Generated text is made of the texts of its parts, one after another. So the order of the parts is
the order of their texts, and a list of items that is cut somewhere cuts the text in the same place.
What stands in the text of a part stands in the whole text.
-/

namespace FirmwareGlue.Code

variable {parts : List String}

@[simp] theorem concat_nil : concat [] = "" := rfl

theorem foldl_append (start : String) (parts : List String) :
    parts.foldl (· ++ ·) start = start ++ concat parts := by
  induction parts generalizing start with
  | nil => simp [concat]
  | cons part rest ih =>
      calc rest.foldl (· ++ ·) (start ++ part) = start ++ part ++ concat rest := ih _
        _ = start ++ rest.foldl (· ++ ·) ("" ++ part) := by
          rw [ih, String.empty_append, String.append_assoc]

@[simp] theorem concat_cons (part : String) (rest : List String) :
    concat (part :: rest) = part ++ concat rest := by
  rw [concat, List.foldl_cons, foldl_append, String.empty_append]

@[simp] theorem concat_append (first second : List String) :
    concat (first ++ second) = concat first ++ concat second := by
  rw [concat, List.foldl_append, foldl_append]
  rfl

theorem concat_map_flatMap {α β : Type} (text : β → String) (pieces : α → List β)
    (list : List α) :
    concat ((list.flatMap pieces).map text) =
      concat (list.map fun x => concat ((pieces x).map text)) := by
  induction list with
  | nil => rfl
  | cons x rest ih =>
      rw [List.flatMap_cons, List.map_append, concat_append, ih, List.map_cons, concat_cons]

/-- A separator stands in front of each part but the first. -/
theorem intercalate_cons_eq (separator first : String) (rest : List String) :
    String.intercalate separator (first :: rest) =
      first ++ concat (rest.map fun part => separator ++ part) := by
  induction rest generalizing first with
  | nil => rw [String.intercalate_singleton, List.map_nil, concat_nil, String.append_empty]
  | cons second rest ih =>
      rw [String.intercalate_cons_cons, ih, List.map_cons, concat_cons]
      simp only [String.append_assoc]

@[simp] theorem itemsText_nil : itemsText [] = "" := rfl

theorem itemsText_blank : itemsText [.blank] = "\n" := rfl

@[simp] theorem itemsText_cons (item : Item) (items : List Item) :
    itemsText (item :: items) = item.text ++ itemsText items := by
  rw [itemsText, List.map_cons, concat_cons, itemsText]

@[simp] theorem itemsText_append (first second : List Item) :
    itemsText (first ++ second) = itemsText first ++ itemsText second := by
  rw [itemsText, List.map_append, concat_append, itemsText, itemsText]

/-- A text stands somewhere in another one. -/
def Within (part whole : String) : Prop :=
  ∃ before after, whole = before ++ part ++ after

namespace Within

variable {part middle whole : String}

theorem refl (text : String) : Within text text :=
  ⟨"", "", by simp⟩

theorem trans (first : Within part middle) (second : Within middle whole) : Within part whole := by
  obtain ⟨before, after, rfl⟩ := first
  obtain ⟨front, back, rfl⟩ := second
  exact ⟨front ++ before, after ++ back, by simp only [String.append_assoc]⟩

theorem behind (h : Within part whole) (front : String) : Within part (front ++ whole) :=
  h.trans ⟨front, "", by simp⟩

theorem before (h : Within part whole) (back : String) : Within part (whole ++ back) :=
  h.trans ⟨"", back, by simp⟩

theorem concat (h : part ∈ parts) : Within part (concat parts) := by
  obtain ⟨front, back, rfl⟩ := List.append_of_mem h
  rw [concat_append, concat_cons]
  exact ((refl part).before _).behind _

theorem intercalate (separator : String) (h : part ∈ parts) :
    Within part (String.intercalate separator parts) := by
  induction parts with
  | nil => cases h
  | cons first rest ih =>
      rcases List.mem_cons.1 h with rfl | later
      · cases rest with
        | nil =>
            rw [String.intercalate_singleton]
            exact refl part
        | cons second more =>
            rw [String.intercalate_cons_cons]
            exact ((refl part).before separator).before _
      · rw [String.intercalate_cons_of_ne_nil (List.ne_nil_of_mem later)]
        exact (ih later).behind _

end Within

end FirmwareGlue.Code
