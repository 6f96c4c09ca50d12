import FirmwareGlue.Proofs.Markup.Stream
import FirmwareGlue.Proofs.Workspace.Section

/-!
# Documents that end early

The end of a document is not accepted inside a package, a module or a leaf. But the loader is in the
same state between the sections of the root, behind the end of the root, and behind its start; so
where it accepts the end of the root, it also accepts the end of the document in its place, and it
takes sections behind the root as it takes those inside.

This is shown for every document, since whatever a reader delivers is a stream. Leaves that end
early are left out: the rest of such a leaf is no longer inside it.
-/

namespace FirmwareGlue.Workspace

open Markup (Tag Event Content Element Stream Transcript)

/-- No leaf of a root or section ends early. -/
def RootApart (e : Element) : Prop :=
  SectionApart e ∧ (e.tag.name = "Workspace" → ∀ s ∈ e.inside.elements, SectionApart s)

/-- The sections of a stream that has a root and is not inside a section at its end. -/
inductive Sections : Stream → List Element → Prop where
  /-- The root is closed; sections stand inside it and behind it. -/
  | closed {c : Content} {root : Element} {behind : List Element}
      (first : c.elements = root :: behind) (named : root.tag.name = "Workspace") :
      Sections (.whole c) (root.inside.elements ++ behind)
  /-- The root is open. -/
  | cut {before inside : Content} {tag : Tag} (first : before.elements = [])
      (named : tag.name = "Workspace") :
      Sections (.broken before tag (.whole inside)) inside.elements

/-- There are none if an element is open inside another one. -/
theorem Sections.not_within {before between : Content} {root tag : Tag} {s : Stream}
    {sections : List Element} :
    ¬ Sections (.broken before root (.broken between tag s)) sections := nofun

namespace Loading

variable {l k : Loading} {leaf : Leaf} {parent : Parent} {s : Stream} {ws : Workspace}

/-- A pending leaf is pending until an end of its name. -/
theorem Awaits.stream (h : l.Awaits leaf) (apart : leaf.tag.name ∉ s.closed.names)
    (run : s.events.foldlM step l = .ok k) : ∃ text, k.Awaits { leaf with text } := by
  induction s generalizing l leaf with
  | whole c => exact (content_settles run).kept leaf h apart
  | broken before tag inside ih =>
      simp only [Stream.closed, Content.names_append, Content.names, List.mem_append,
        List.mem_cons, not_or] at apart
      simp only [Stream.events, List.foldlM_append, List.foldlM_cons, bind_ok_iff] at run
      obtain ⟨m, first, n, opened, later⟩ := run
      obtain ⟨text, still⟩ := (content_settles first).kept leaf h apart.1
      cases opened.symm.trans (still.openElement tag)
      have last := ih still apart.2.1.2 later
      exact last

/-- Inside a package or module the loader stays inside, or in a leaf of it. -/
theorem Inside.stream (h : l.Inside parent) (apart : s.closed.LeavesApart)
    (run : s.events.foldlM step l = .ok k) : k.scope ≠ .outside := by
  cases s with
  | whole c => exact (h.of_content apart run).within
  | broken before tag inside =>
      rw [Stream.closed, Content.leavesApart_append] at apart
      simp only [Stream.events, List.foldlM_append, List.foldlM_cons, bind_ok_iff] at run
      obtain ⟨m, first, n, opened, later⟩ := run
      have still := h.of_content apart.1 first
      cases opened.symm.trans (openElement_of_inside still.free still.within tag)
      have awaits : Awaits { m with leaf := some ⟨tag, ""⟩ } ⟨tag, ""⟩ := ⟨rfl, still.within⟩
      obtain ⟨_, last⟩ := awaits.stream apart.2.1 later
      exact last.within

theorem not_finish_of_within (within : l.scope ≠ .outside) : l.finish ≠ .ok ws := by
  obtain ⟨_, scope, waiting, rooted⟩ := l
  cases rooted <;> cases scope <;> simp_all [finish]

/-- Below the root, a document may not end in an open element. -/
theorem Between.not_broken {before : Content} {tag : Tag} (h : l.Between)
    (apart : ∀ e ∈ (Stream.broken before tag s).closed.elements, SectionApart e) :
    (Stream.broken before tag s).events.foldlM step l >>= finish ≠ .ok ws := by
  intro loads
  simp only [Stream.closed, Content.elements_append, Content.elements, List.forall_mem_append,
    List.forall_mem_singleton] at apart
  obtain ⟨k, run, finished⟩ := bind_ok_iff.1 loads
  simp only [Stream.events, List.foldlM_append, List.foldlM_cons, bind_ok_iff] at run
  obtain ⟨m, first, n, opened, later⟩ := run
  rw [h.content_eq apart.1] at first
  obtain ⟨_, _, made⟩ := bind_ok_iff.1 first
  cases made
  have still := h.registered ((before.elements.map scopeOf).foldl register l.workspace)
  cases known : Parent.ofName? tag.name with
  | none =>
      rw [step, still.openElement_stray known] at opened
      cases opened
  | some parent =>
      rw [step, still.openElement known] at opened
      obtain ⟨_, _, made⟩ := bind_ok_iff.1 opened
      cases made
      have leaves : s.closed.LeavesApart := apart.2 (by simp [Element.tag, known])
      exact not_finish_of_within ((still.begun parent tag).stream leaves later) finished

/-- Below the root, a document may end where no section is open. -/
theorem Between.stream (h : l.Between) (apart : ∀ e ∈ s.closed.elements, SectionApart e) :
    s.events.foldlM step l >>= finish = .ok ws ↔ ∃ c, s = .whole c ∧
      (∀ station ∈ c.elements.flatMap Station.ofElement, station.check = .ok ()) ∧
      ws = (c.elements.map scopeOf).foldl register l.workspace := by
  cases s with
  | whole c =>
      have apart : ∀ e ∈ c.elements, SectionApart e := apart
      have ends (final : Workspace) : finish { l with workspace := final } = .ok final := by
        simp [finish, h.rooted, h.outside, h.free]
      rw [Stream.events, h.content_eq apart, bind_assoc, bind_ok_iff]
      simp only [ok_bind, ends]
      constructor
      · rintro ⟨_, fine, made⟩
        cases made
        exact ⟨c, rfl, forM_ok_iff.1 fine, rfl⟩
      · rintro ⟨d, same, fine, rfl⟩
        cases same
        exact ⟨(), forM_ok_iff.2 fine, rfl⟩
  | broken before tag inside =>
      constructor
      · intro loads
        exact absurd loads (h.not_broken apart)
      · rintro ⟨c, same, _⟩
        cases same

/-- Text without elements says nothing. -/
theorem blank_eq {c : Content} (blank : c.elements = []) (free : l.leaf = none) :
    c.events.foldlM step l = .ok l := by
  induction c with
  | nil => rfl
  | text raw rest ih =>
      rw [Content.events, List.foldlM_cons, step_text_of_free free, ok_bind]
      exact ih blank
  | cdata literal rest ih =>
      rw [Content.events, List.foldlM_cons, step_cdata_of_free free, ok_bind]
      exact ih blank
  | empty tag rest _ => cases blank
  | element tag inside rest _ _ => cases blank

/-- Behind a root, the loader goes on as it would inside. -/
theorem behind_root {root : Element} (named : root.tag.name = "Workspace")
    (inside : ∀ e ∈ root.inside.elements, SectionApart e)
    (behind : ∀ e ∈ s.closed.elements, SectionApart e) :
    (root.events ++ s.events).foldlM step {} >>= finish = .ok ws ↔ ∃ c, s = .whole c ∧
      (∀ station ∈ (root.inside.elements ++ c.elements).flatMap Station.ofElement,
        station.check = .ok ()) ∧
      ws = ((root.inside.elements ++ c.elements).map scopeOf).foldl register .empty := by
  have between : Between
      { rooted := true, workspace := (root.inside.elements.map scopeOf).foldl register .empty } :=
    ⟨rfl, rfl, rfl⟩
  rw [List.foldlM_append, root_eq named inside, bind_assoc, bind_assoc, bind_ok_iff]
  simp only [ok_bind, between.stream behind, List.flatMap_append, List.forall_mem_append,
    List.map_append, List.foldl_append]
  constructor
  · rintro ⟨_, first, c, rfl, later, rfl⟩
    exact ⟨c, rfl, ⟨forM_ok_iff.1 first, later⟩, rfl⟩
  · rintro ⟨c, rfl, ⟨first, later⟩, rfl⟩
    exact ⟨(), forM_ok_iff.2 first, c, rfl, later, rfl⟩

/-- Inside a root, the loader goes on to the end of the document. -/
theorem inside_root {tag : Tag} (named : tag.name = "Workspace")
    (inside : ∀ e ∈ s.closed.elements, SectionApart e) :
    (.opening tag :: s.events).foldlM step {} >>= finish = .ok ws ↔ ∃ c, s = .whole c ∧
      (∀ station ∈ c.elements.flatMap Station.ofElement, station.check = .ok ()) ∧
      ws = (c.elements.map scopeOf).foldl register .empty := by
  have between : Between { rooted := true } := ⟨rfl, rfl, rfl⟩
  rw [List.foldlM_cons, step, openElement_root named, ok_bind]
  exact between.stream inside

/-- Only a root may come first. -/
theorem unrooted {root : Element} (other : root.tag.name ≠ "Workspace") (after : List Event) :
    (root.events ++ after).foldlM step {} >>= finish ≠ .ok ws := by
  intro loads
  cases root with
  | empty tag =>
      have refused : Loading.openElement {} tag = _ := openElement_unrooted other
      rw [Element.events, List.cons_append, List.foldlM_cons, step, refused] at loads
      cases loads
  | full tag inside =>
      have refused : Loading.openElement {} tag = _ := openElement_unrooted other
      rw [Element.events, List.cons_append, List.cons_append, List.foldlM_cons, step, refused]
        at loads
      cases loads

/-- Whole markup loads exactly if its first element is a root and every section is valid. -/
theorem whole_loads_iff {c : Content} (apart : ∀ e ∈ c.elements, RootApart e) :
    c.events.foldlM step {} >>= finish = .ok ws ↔ ∃ sections, Sections (.whole c) sections ∧
      (∀ station ∈ sections.flatMap Station.ofElement, station.check = .ok ()) ∧
      ws = (sections.map scopeOf).foldl register .empty := by
  constructor
  · intro loads
    cases first : c.elements with
    | nil =>
        rw [blank_eq first rfl] at loads
        cases loads
    | cons root others =>
        obtain ⟨before, rest, same, blank, rfl⟩ := Content.exists_first first
        rw [first, List.forall_mem_cons] at apart
        rw [same, List.foldlM_append, blank_eq blank rfl, ok_bind] at loads
        by_cases named : root.tag.name = "Workspace"
        · obtain ⟨d, whole, valid, made⟩ := (behind_root (s := .whole rest) named
            (apart.1.2 named) fun e member => (apart.2 e member).1).1 loads
          cases whole
          exact ⟨_, .closed first named, valid, made⟩
        · exact absurd loads (unrooted named _)
  · rintro ⟨_, rooted, valid, made⟩
    cases rooted with
    | closed first named =>
        obtain ⟨before, rest, same, blank, rfl⟩ := Content.exists_first first
        rw [first, List.forall_mem_cons] at apart
        rw [same, List.foldlM_append, blank_eq blank rfl, ok_bind]
        exact (behind_root (s := .whole rest) named (apart.1.2 named)
          fun e member => (apart.2 e member).1).2 ⟨rest, rfl, valid, made⟩

/-- Markup with an open element loads exactly if that element is a root with nothing but valid
sections inside. -/
theorem broken_loads_iff {before : Content} {tag : Tag}
    (apart : ∀ e ∈ (Stream.broken before tag s).closed.elements, RootApart e) :
    (Stream.broken before tag s).events.foldlM step {} >>= finish = .ok ws ↔
      ∃ sections, Sections (.broken before tag s) sections ∧
        (∀ station ∈ sections.flatMap Station.ofElement, station.check = .ok ()) ∧
        ws = (sections.map scopeOf).foldl register .empty := by
  simp only [Stream.closed, Content.elements_append, Content.elements, List.forall_mem_append,
    List.forall_mem_singleton] at apart
  have inside (named : tag.name = "Workspace") : ∀ e ∈ s.closed.elements, SectionApart e :=
    apart.2.2 named
  constructor
  · intro loads
    cases first : before.elements with
    | nil =>
        rw [Stream.events, List.foldlM_append, blank_eq first rfl, ok_bind] at loads
        by_cases named : tag.name = "Workspace"
        · obtain ⟨c, rfl, valid, made⟩ := (inside_root named (inside named)).1 loads
          exact ⟨_, .cut first named, valid, made⟩
        · rw [List.foldlM_cons, step, openElement_unrooted named] at loads
          cases loads
    | cons root others =>
        obtain ⟨blank, rest, same, none, rfl⟩ := Content.exists_first first
        have behind : (Stream.broken before tag s).events =
            blank.events ++ (root.events ++ (Stream.broken rest tag s).events) := by
          simp [Stream.events, same]
        rw [first, List.forall_mem_cons] at apart
        rw [behind, List.foldlM_append, blank_eq none rfl, ok_bind] at loads
        by_cases named : root.tag.name = "Workspace"
        · have later : ∀ e ∈ (Stream.broken rest tag s).closed.elements, SectionApart e := by
            simp only [Stream.closed, Content.elements_append, Content.elements,
              List.forall_mem_append, List.forall_mem_singleton]
            exact ⟨fun e member => (apart.1.2 e member).1, apart.2.1⟩
          obtain ⟨c, whole, _⟩ := (behind_root named (apart.1.1.2 named) later).1 loads
          cases whole
        · exact absurd loads (unrooted named _)
  · rintro ⟨_, rooted, valid, made⟩
    cases rooted with
    | cut blank named =>
        rw [Stream.events, List.foldlM_append, blank_eq blank rfl, ok_bind]
        exact (inside_root named (inside named)).2 ⟨_, rfl, valid, made⟩

/-- A stream loads exactly if it has a root, no section is open at its end, and every section and
leaf is valid. -/
theorem loads_iff (apart : ∀ e ∈ s.closed.elements, RootApart e) :
    s.events.foldlM step {} >>= finish = .ok ws ↔ ∃ sections, Sections s sections ∧
      (∀ station ∈ sections.flatMap Station.ofElement, station.check = .ok ()) ∧
      ws = (sections.map scopeOf).foldl register .empty := by
  cases s with
  | whole c => exact whole_loads_iff apart
  | broken before tag inside => exact broken_loads_iff apart

end Loading

/-- Every document is read as a stream. If no leaf in it ends early, it loads exactly if it has one
root that stands first and either is closed or is the only element that is open at the end, and
every section inside and behind the root is valid; then these sections are registered, in order. -/
theorem ofDocument_loads_iff (document : String) :
    (∃ s : Stream, s.events = (Transcript.ofText document).events) ∧
      ∀ s : Stream, s.events = (Transcript.ofText document).events →
        (∀ e ∈ s.closed.elements, RootApart e) → ∀ ws, ofDocument document = .ok ws ↔
          (Transcript.ofText document).fault = none ∧ ∃ sections, Sections s sections ∧
            (∀ station ∈ sections.flatMap Station.ofElement, station.check = .ok ()) ∧
            ws = (sections.map scopeOf).foldl register .empty := by
  refine ⟨Transcript.exists_stream document, ?_⟩
  intro s delivered apart ws
  rw [← Loading.loads_iff apart, delivered, ofDocument, ofTranscript]
  cases (Transcript.ofText document).fault with
  | none => simp
  | some fault => simp [bind_ok_iff]

/-- A root that is not closed, with a package inside, from the end of the tag of the package. -/
def cutDocument (tagEnd : String) : String :=
  "<Workspace><Package Name=\"Sample\" Guid=\"00000000-0000-0000-0000-000000000000\"" ++ tagEnd

/-- A document may end inside the root, but not inside a package. -/
theorem cut_root_loads :
    (∃ ws, ofDocument (cutDocument "/>") = .ok ws ∧ ws.packages.toList.length = 1) ∧
      ∀ ws, ofDocument (cutDocument ">") ≠ .ok ws := by
  let closed : Stream := .broken .nil ⟨"Workspace", []⟩ (.whole (.empty (sampleTag .package) .nil))
  let cut : Stream :=
    .broken .nil ⟨"Workspace", []⟩ (.broken .nil (sampleTag .package) (.whole .nil))
  have readsClosed : Transcript.ofText (cutDocument "/>") = ⟨closed.events, none⟩ := by
    decide +kernel
  have readsCut : Transcript.ofText (cutDocument ">") = ⟨cut.events, none⟩ := by
    decide +kernel
  have apart {inside : Content} {package : Element} (only : inside.elements = [package])
      (blank : package.inside = .nil) :
      ∀ e ∈ [Element.full ⟨"Workspace", []⟩ inside], RootApart e := by
    intro e member
    cases List.mem_singleton.1 member
    refine ⟨nofun, ?_⟩
    intro _ s inRoot _
    rw [Element.inside, only] at inRoot
    cases List.mem_singleton.1 inRoot
    rw [blank]
    trivial
  have fine : forM ([Element.empty (sampleTag .package)].flatMap Station.ofElement)
      Station.check = .ok () := by
    decide +kernel
  constructor
  · have spec := (ofDocument_loads_iff (cutDocument "/>")).2 closed (by rw [readsClosed])
      (apart rfl rfl)
    exact ⟨_, (spec _).2 ⟨by rw [readsClosed], _, .cut rfl rfl, forM_ok_iff.1 fine, rfl⟩, rfl⟩
  · intro ws loads
    have spec := (ofDocument_loads_iff (cutDocument ">")).2 cut (by rw [readsCut]) (apart rfl rfl)
    obtain ⟨_, _, sections, _⟩ := (spec ws).1 loads
    exact sections.not_within

/-- A package behind the end of the root. -/
def packageBehind : String :=
  "<Workspace/><Package Name=\"Sample\" Guid=\"00000000-0000-0000-0000-000000000000\"/>"

/-- A root that is not closed is accepted, and so is a package behind the end of the root. -/
theorem open_root_loads :
    (Transcript.ofText "<Workspace>" = ⟨[.opening ⟨"Workspace", []⟩], none⟩ ∧
      ofDocument "<Workspace>" = .ok .empty) ∧
    (Transcript.ofText packageBehind =
        ⟨[.empty ⟨"Workspace", []⟩, .empty (sampleTag .package)], none⟩ ∧
      ∃ ws, ofDocument packageBehind = .ok ws ∧ ws.packages.toList.length = 1) := by
  have cut : Transcript.ofText "<Workspace>" = ⟨[.opening ⟨"Workspace", []⟩], none⟩ := by
    decide +kernel
  have behind : Transcript.ofText packageBehind =
      ⟨[.empty ⟨"Workspace", []⟩, .empty (sampleTag .package)], none⟩ := by
    decide +kernel
  let root : Element := .empty ⟨"Workspace", []⟩
  let rest : Stream := .whole (.empty (sampleTag .package) .nil)
  have fine : forM ([Element.empty (sampleTag .package)].flatMap Station.ofElement)
      Station.check = .ok () := by
    decide +kernel
  have inside : ∀ e ∈ root.inside.elements, SectionApart e := by
    intro e member
    cases member
  have apart : ∀ e ∈ rest.closed.elements, SectionApart e := by
    intro e member _
    cases List.mem_singleton.1 member
    exact trivial
  have loads : (root.events ++ rest.events).foldlM Loading.step {} >>= Loading.finish = .ok _ :=
    (Loading.behind_root rfl inside apart).2 ⟨_, rfl, forM_ok_iff.1 fine, rfl⟩
  refine ⟨⟨cut, ?_⟩, behind, ?_⟩
  · rw [ofDocument, cut]
    rfl
  · rw [ofDocument, behind]
    exact ⟨_, loads, rfl⟩

end FirmwareGlue.Workspace
