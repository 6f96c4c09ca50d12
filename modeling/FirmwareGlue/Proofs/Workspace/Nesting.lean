import FirmwareGlue.Proofs.FirstError
import FirmwareGlue.Proofs.Markup.Content
import FirmwareGlue.Workspace.Document

/-!
# Markup inside leaves

A leaf is pending until the next end of an element of its name. As long as no element inside it has
that name, all that the markup inside contributes is its text, and the end tag of the leaf hands
this text on. An unknown leaf then changes nothing.

An element of the same name inside ends the leaf early. What follows inside is taken for further
leaves, and the end tag that is left over closes the package or module. From there on the loader is
outside, until the next package or module begins, and refuses the leaves that follow.
-/

namespace FirmwareGlue.Workspace

open Markup (Tag Event Content Element)

namespace Loading

variable {l k : Loading} {leaf : Leaf} {tag : Tag} {name text : String} {c : Content} {e : Error}

/-- A leaf of a package or module is pending. -/
structure Awaits (l : Loading) (leaf : Leaf) : Prop where
  pending : l.leaf = some leaf
  within : l.scope ≠ .outside

theorem Awaits.addText (h : l.Awaits leaf) (text : String) :
    (l.addText leaf text).Awaits { leaf with text := leaf.text ++ text } :=
  ⟨rfl, h.within⟩

theorem Awaits.addText_empty (h : l.Awaits leaf) : l.addText leaf "" = l := by
  cases l
  cases h.pending
  simp [Loading.addText]

theorem addText_addText (first second : String) :
    (l.addText leaf first).addText { leaf with text := leaf.text ++ first } second =
      l.addText leaf (first ++ second) := by
  simp [addText, String.append_assoc]

theorem Awaits.openElement (h : l.Awaits leaf) (tag : Tag) : l.openElement tag = .ok l := by
  obtain ⟨ws, scope, _, rooted⟩ := l
  cases h.pending
  cases scope with
  | outside => exact absurd rfl h.within
  | package p => rfl
  | module m => rfl

theorem Awaits.closeElement_of_ne (h : l.Awaits leaf) (other : leaf.tag.name ≠ name) :
    l.closeElement name = .ok l := by
  rw [closeElement, h.pending]
  exact if_neg other

theorem Awaits.closeElement_self (h : l.Awaits leaf) :
    l.closeElement leaf.tag.name = l.applyLeaf leaf := by
  rw [closeElement, h.pending]
  exact if_pos rfl

/-- Markup inside a leaf, without an element of its name, only adds its text. -/
theorem Awaits.content (h : l.Awaits leaf) (apart : leaf.tag.name ∉ c.names) :
    c.events.foldlM step l = (c.reading.mapError Error.markup).map (l.addText leaf) := by
  induction c generalizing l leaf with
  | nil => exact congrArg Except.ok h.addText_empty.symm
  | text raw rest ih =>
      have here : l.step (.text raw) =
          (Markup.unescape raw).mapError Error.markup >>= fun first =>
            .ok (l.addText leaf first) := by
        rw [step, h.pending]
      rw [Content.events, List.foldlM_cons, here, Content.reading]
      cases Markup.unescape raw with
      | error fault => rfl
      | ok first =>
          change rest.events.foldlM step (l.addText leaf first) = _
          rw [ih (h.addText first) apart]
          cases rest.reading with
          | error fault => rfl
          | ok second => exact congrArg Except.ok (addText_addText _ second)
  | cdata literal rest ih =>
      have here : l.step (.cdata literal) = .ok (l.addText leaf literal) := by
        rw [step, h.pending]
      rw [Content.events, List.foldlM_cons, here, ok_bind, Content.reading,
        ih (h.addText literal) apart]
      cases rest.reading with
      | error fault => rfl
      | ok second => exact congrArg Except.ok (addText_addText _ second)
  | empty tag rest ih =>
      simp only [Content.names, List.mem_cons, not_or] at apart
      have here : l.step (.empty tag) = .ok l := by
        rw [step, h.openElement, ok_bind, h.closeElement_of_ne apart.1]
      rw [Content.events, List.foldlM_cons, here, ok_bind, Content.reading, ih h apart.2]
  | element tag inside rest ihInside ihRest =>
      simp only [Content.names, List.cons_append, List.mem_cons, List.mem_append, not_or] at apart
      obtain ⟨other, apartInside, apartRest⟩ := apart
      rw [Content.events, List.cons_append, List.foldlM_cons, step, h.openElement, ok_bind,
        List.foldlM_append, ihInside h apartInside, Content.reading]
      cases inside.reading with
      | error fault => rfl
      | ok first =>
          have later := h.addText first
          change (Event.closing tag.name :: rest.events).foldlM step (l.addText leaf first) = _
          rw [List.foldlM_cons, step, later.closeElement_of_ne other, ok_bind,
            ihRest later apartRest]
          cases rest.reading with
          | error fault => rfl
          | ok second => exact congrArg Except.ok (addText_addText _ second)

/-- Without a pending leaf, an end tag closes the package or module. -/
theorem closeElement_of_free (free : l.leaf = none) (name : String) :
    l.closeElement name = .ok l.closeScope := by
  rw [closeElement, free]

@[simp] theorem closeScope_leaf (l : Loading) : l.closeScope.leaf = l.leaf := by
  obtain ⟨_, scope, _, _⟩ := l
  cases scope <;> rfl

@[simp] theorem closeScope_scope (l : Loading) : l.closeScope.scope = .outside := by
  obtain ⟨_, scope, _, _⟩ := l
  cases scope <;> rfl

theorem applyLeaf_free (h : l.applyLeaf leaf = .ok k) : k.leaf = none := by
  obtain ⟨ws, scope, waiting, rooted⟩ := l
  cases scope with
  | outside =>
      cases h
      rfl
  | package p =>
      obtain ⟨_, _, made⟩ := bind_ok_iff.1 h
      cases made
      rfl
  | module m =>
      obtain ⟨_, _, made⟩ := bind_ok_iff.1 h
      cases made
      rfl

theorem openElement_of_outside (free : l.leaf = none) (outside : l.scope = .outside)
    (h : l.openElement tag = .ok k) : k.leaf = none := by
  rw [openElement, outside] at h
  simp only [openScope] at h
  split at h
  · cases h
    exact free
  · obtain ⟨_, _, made⟩ := bind_ok_iff.1 h
    cases made
    exact free
  · obtain ⟨_, _, made⟩ := bind_ok_iff.1 h
    cases made
    exact free
  · cases h

theorem openElement_of_inside (free : l.leaf = none) (inside : l.scope ≠ .outside) (tag : Tag) :
    l.openElement tag = .ok { l with leaf := some ⟨tag, ""⟩ } := by
  obtain ⟨ws, scope, _, rooted⟩ := l
  cases free
  cases scope with
  | outside => exact absurd rfl inside
  | package p => rfl
  | module m => rfl

/-- What whole elements, of these names at any depth, do to the nesting. Where no leaf is pending,
none is pending after them, and outside stays outside. A pending leaf is ended by an element of its
name, and by no other. -/
structure Settles (names : List String) (l k : Loading) : Prop where
  free : l.leaf = none → k.leaf = none
  outside : l.leaf = none → l.scope = .outside → k.scope = .outside
  ended : ∀ leaf, l.Awaits leaf → leaf.tag.name ∈ names → k.leaf = none
  kept : ∀ leaf, l.Awaits leaf → leaf.tag.name ∉ names → ∃ text, k.Awaits { leaf with text }

theorem Settles.refl (l : Loading) : Settles [] l l where
  free := id
  outside := fun _ => id
  ended := by simp
  kept := fun leaf h _ => ⟨leaf.text, h⟩

theorem Settles.trans {m : Loading} {first second : List String} (before : Settles first l m)
    (after : Settles second m k) : Settles (first ++ second) l k where
  free := fun free => after.free (before.free free)
  outside := fun free outside => after.outside (before.free free) (before.outside free outside)
  ended := by
    intro leaf awaits member
    by_cases early : leaf.tag.name ∈ first
    · exact after.free (before.ended leaf awaits early)
    · obtain ⟨_, later⟩ := before.kept leaf awaits early
      exact after.ended _ later ((List.mem_append.1 member).resolve_left early)
  kept := by
    intro leaf awaits absent
    rw [List.mem_append, not_or] at absent
    obtain ⟨_, later⟩ := before.kept leaf awaits absent.1
    obtain ⟨text, last⟩ := after.kept _ later absent.2
    exact ⟨text, last⟩

/-- Text at most adds to the pending leaf. -/
theorem settles_of_addText (idle : l.leaf = none → k = l)
    (adds : ∀ leaf, l.leaf = some leaf → ∃ text, k = l.addText leaf text) : Settles [] l k := by
  cases pending : l.leaf with
  | none =>
      rw [idle pending]
      exact .refl l
  | some waiting =>
      obtain ⟨text, rfl⟩ := adds waiting pending
      refine ⟨by simp [pending], by simp [pending], by simp, ?_⟩
      intro leaf awaits _
      cases pending.symm.trans awaits.pending
      exact ⟨_, awaits.addText text⟩

theorem settles_text {raw : String} (h : l.step (.text raw) = .ok k) : Settles [] l k := by
  apply settles_of_addText
  · intro idle
    rw [step, idle] at h
    exact (Except.ok.inj h).symm
  · intro leaf pending
    rw [step, pending] at h
    obtain ⟨text, _, made⟩ := bind_ok_iff.1 h
    exact ⟨text, (Except.ok.inj made).symm⟩

theorem settles_cdata {literal : String} (h : l.step (.cdata literal) = .ok k) :
    Settles [] l k := by
  apply settles_of_addText
  · intro idle
    rw [step, idle] at h
    exact (Except.ok.inj h).symm
  · intro leaf pending
    rw [step, pending] at h
    exact ⟨literal, (Except.ok.inj h).symm⟩

/-- An element does to the nesting what its content does between its tags. -/
theorem settles_element {m n : Loading} {names : List String} (opened : l.openElement tag = .ok m)
    (inside : Settles names m n) (closed : n.closeElement tag.name = .ok k) :
    Settles (tag.name :: names) l k := by
  -- Without a pending leaf, the end tag closes the scope; with its own, it ends that.
  have closes (free : n.leaf = none) : k = n.closeScope :=
    Except.ok.inj (closed.symm.trans (closeElement_of_free free _))
  have ends (leaf : Leaf) (awaits : n.Awaits leaf) (same : leaf.tag.name = tag.name) :
      k.leaf = none := by
    rw [← same, awaits.closeElement_self] at closed
    exact applyLeaf_free closed
  refine ⟨?_, ?_, ?_, ?_⟩
  · intro free
    by_cases outside : l.scope = .outside
    · have still := inside.free (openElement_of_outside free outside opened)
      simp [closes still, still]
    · rw [openElement_of_inside free outside] at opened
      cases opened
      have awaits : Awaits { l with leaf := some ⟨tag, ""⟩ } ⟨tag, ""⟩ := ⟨rfl, outside⟩
      by_cases early : tag.name ∈ names
      · have still := inside.ended _ awaits early
        simp [closes still, still]
      · obtain ⟨_, later⟩ := inside.kept _ awaits early
        exact ends _ later rfl
  · intro free outside
    have still := inside.free (openElement_of_outside free outside opened)
    simp [closes still]
  · intro leaf awaits member
    cases opened.symm.trans (awaits.openElement tag)
    by_cases early : leaf.tag.name ∈ names
    · have still := inside.ended leaf awaits early
      simp [closes still, still]
    · obtain ⟨_, later⟩ := inside.kept leaf awaits early
      exact ends _ later ((List.mem_cons.1 member).resolve_right early)
  · intro leaf awaits absent
    rw [List.mem_cons, not_or] at absent
    cases opened.symm.trans (awaits.openElement tag)
    obtain ⟨text, later⟩ := inside.kept leaf awaits absent.2
    cases closed.symm.trans (later.closeElement_of_ne absent.1)
    exact ⟨text, later⟩

theorem content_settles (h : c.events.foldlM step l = .ok k) : Settles c.names l k := by
  induction c generalizing l k with
  | nil =>
      cases h
      exact .refl l
  | text raw rest ih =>
      rw [Content.events, List.foldlM_cons, bind_ok_iff] at h
      obtain ⟨m, stepped, later⟩ := h
      exact (settles_text stepped).trans (ih later)
  | cdata literal rest ih =>
      rw [Content.events, List.foldlM_cons, bind_ok_iff] at h
      obtain ⟨m, stepped, later⟩ := h
      exact (settles_cdata stepped).trans (ih later)
  | empty tag rest ih =>
      rw [Content.events, List.foldlM_cons, bind_ok_iff] at h
      obtain ⟨m, stepped, later⟩ := h
      obtain ⟨n, opened, closed⟩ := bind_ok_iff.1 stepped
      exact (settles_element opened (.refl n) closed).trans (ih later)
  | element tag inside rest ihInside ihRest =>
      simp only [Content.events, List.cons_append, List.foldlM_cons, List.foldlM_append,
        bind_ok_iff] at h
      obtain ⟨m, opened, n, between, o, closed, later⟩ := h
      exact (settles_element opened (ihInside between) closed).trans (ihRest later)

end Loading

end FirmwareGlue.Workspace
