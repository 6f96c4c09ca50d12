import FirmwareGlue.Proofs.Workspace.Record

/-!
# Packages and modules one after the other

Below the root, a document is a sequence of sections: packages and modules, each with leaves
inside. Loading a section checks its tag, then its leaves as they end, and registers what the tag
and the leaves describe. So loading markup of sections is to check station after station and to
register what the sections describe, in the order of the document; nothing that is checked depends
on what came before. Text between elements says nothing.
-/

namespace FirmwareGlue.Workspace

open Markup (Tag Event Content Element)

def Parent.ofName? : String → Option Parent
  | "Package" => some .package
  | "Module" => some .module
  | _ => none

/-- What the tag of a package or module is asked for. -/
def Parent.demands : Parent → List Demand
  | package => [.given "Name", .guid "Guid"]
  | module => [.given "Name", .guid "Guid", .moduleType "ModuleType", .flag "Library",
      .flag "FlashMap", .guidIfGiven "Package"]

/-- What a leaf is asked for, by its name. -/
def Parent.leafDemands : Parent → String → List Demand
  | package => packageDemands
  | module => moduleDemands

def identityAt (tag : Tag) : Identity :=
  ⟨textAt tag "Name", guidAt tag "Guid", version tag⟩

/-- The package that a tag describes, without leaves. -/
def packageAt (tag : Tag) : Package where
  identity := identityAt tag

/-- The module that a tag describes, without leaves. -/
def moduleAt (tag : Tag) : Module where
  identity := identityAt tag
  type := moduleTypeAt tag "ModuleType"
  isLibrary := flagAt tag "Library"
  flashMap := flagAt tag "FlashMap"
  package := (tag.get? "Package").bind guidIn?

def Parent.begin : Parent → Tag → Scope
  | package, tag => .package (packageAt tag)
  | module, tag => .module (moduleAt tag)

def Scope.extend : Scope → List Leaf → Scope
  | outside, _ => outside
  | package p, leaves => package (p.extend leaves)
  | module m, leaves => module (m.extend leaves)

/-- The leaf that an element is, with all the text inside it. -/
def leafOf (e : Element) : Leaf where
  tag := e.tag
  text :=
    match e.inside.reading with
    | .ok text => text
    | .error _ => ""

def leavesOf (e : Element) : List Leaf :=
  e.inside.elements.map leafOf

/-- What a section describes; an element that is no section describes nothing. -/
def scopeOf (e : Element) : Scope :=
  match Parent.ofName? e.tag.name with
  | some parent => (parent.begin e.tag).extend (leavesOf e)
  | none => .outside

def register (ws : Workspace) : Scope → Workspace
  | .outside => ws
  | .package p => ws.addPackage p
  | .module m => ws.addModule m

/-- What is checked when sections are loaded. -/
inductive Station where
  /-- An element that is neither package nor module. -/
  | stray (tag : Tag)
  /-- The tag of a package or module. -/
  | start (parent : Parent) (tag : Tag)
  /-- A leaf at its end. -/
  | leaf (parent : Parent) (e : Element)

namespace Station

def check : Station → Except Error Unit
  | stray tag => .error (.malformed (.unexpectedElement tag.name))
  | start parent tag => Leaf.ask ⟨tag, ""⟩ parent.demands
  | leaf parent e => do
    let text ← e.inside.reading.mapError Error.markup
    Leaf.ask ⟨e.tag, text⟩ (parent.leafDemands e.tag.name)

/-- The stations of an element outside packages and modules. -/
def ofElement (e : Element) : List Station :=
  match Parent.ofName? e.tag.name with
  | some parent => .start parent e.tag :: e.inside.elements.map (.leaf parent)
  | none => [.stray e.tag]

end Station

/-- No leaf of a section ends early. -/
def SectionApart (e : Element) : Prop :=
  (Parent.ofName? e.tag.name).isSome → e.inside.LeavesApart

@[simp] theorem Scope.extend_nil (s : Scope) : s.extend [] = s := by
  cases s <;> simp [extend]

theorem Scope.extend_append (s : Scope) (first second : List Leaf) :
    s.extend (first ++ second) = (s.extend first).extend second := by
  cases s <;> simp [extend, Package.extend_append, Module.extend_append]

@[simp] theorem Scope.parent?_extend (s : Scope) (leaves : List Leaf) :
    (s.extend leaves).parent? = s.parent? := by
  cases s <;> rfl

@[simp] theorem Parent.parent?_begin (parent : Parent) (tag : Tag) :
    (parent.begin tag).parent? = some parent := by
  cases parent <;> rfl

theorem packageOf_eq (tag : Tag) : packageOf tag =
    Leaf.ask ⟨tag, ""⟩ Parent.package.demands >>= fun _ => .ok (packageAt tag) := by
  have name := required_eq ⟨tag, ""⟩ "Name"
  have guid := requiredGuid_eq ⟨tag, ""⟩ "Guid"
  dsimp only at name guid
  simp [packageOf, name, guid, Leaf.ask, Parent.demands, packageAt, identityAt, ok_bind]

theorem moduleOf_eq (tag : Tag) : moduleOf tag =
    Leaf.ask ⟨tag, ""⟩ Parent.module.demands >>= fun _ => .ok (moduleAt tag) := by
  have name := required_eq ⟨tag, ""⟩ "Name"
  have guid := requiredGuid_eq ⟨tag, ""⟩ "Guid"
  have type := requiredModuleType_eq ⟨tag, ""⟩ "ModuleType"
  have library := flag_eq ⟨tag, ""⟩ "Library"
  have flashMap := flag_eq ⟨tag, ""⟩ "FlashMap"
  have package := givenGuid_eq ⟨tag, ""⟩ "Package"
  dsimp only at name guid type library flashMap package
  simp [moduleOf, name, guid, type, library, flashMap, package, Leaf.ask, Parent.demands, moduleAt,
    identityAt, ok_bind]

namespace Loading

variable {l k : Loading} {parent : Parent} {tag : Tag} {e : Element} {c : Content}

theorem closeScope_eq (l : Loading) :
    l.closeScope = { l with workspace := register l.workspace l.scope, scope := .outside } := by
  obtain ⟨ws, scope, waiting, rooted⟩ := l
  cases scope <;> rfl

/-- The loader is below the root, in no package or module. -/
structure Between (l : Loading) : Prop where
  rooted : l.rooted = true
  outside : l.scope = .outside
  free : l.leaf = none

theorem Between.openElement (h : l.Between) (known : Parent.ofName? tag.name = some parent) :
    l.openElement tag = (Station.start parent tag).check >>= fun _ =>
      .ok { l with scope := parent.begin tag } := by
  obtain ⟨ws, scope, waiting, rooted⟩ := l
  obtain ⟨rfl, rfl, rfl⟩ := h
  simp only [Parent.ofName?] at known
  simp only [Loading.openElement, openScope]
  split at known
  next here =>
    cases known
    simp only [here, packageOf_eq, bind_assoc, ok_bind, Parent.begin, Station.check]
  next here =>
    cases known
    simp only [here, moduleOf_eq, bind_assoc, ok_bind, Parent.begin, Station.check]
  next => cases known

theorem Between.openElement_stray (h : l.Between) (stray : Parent.ofName? tag.name = none) :
    l.openElement tag = (Station.stray tag).check >>= fun _ => .ok l := by
  obtain ⟨ws, scope, waiting, rooted⟩ := l
  obtain ⟨rfl, rfl, rfl⟩ := h
  simp only [Parent.ofName?] at stray
  simp only [Loading.openElement, openScope, Station.check]
  split
  all_goals simp_all
  rfl

theorem Inside.applyLeaf (h : l.Inside parent) (leaf : Leaf) :
    l.applyLeaf leaf = leaf.ask (parent.leafDemands leaf.tag.name) >>= fun _ =>
      .ok { l with scope := l.scope.extend [leaf] } := by
  obtain ⟨ws, scope, waiting, rooted⟩ := l
  obtain ⟨rfl, here⟩ := h
  cases scope with
  | outside => cases here
  | package p =>
      cases here
      simp only [Loading.applyLeaf, Leaf.applyToPackage_eq, bind_assoc, ok_bind, Scope.extend,
        Parent.leafDemands]
  | module m =>
      cases here
      simp only [Loading.applyLeaf, Leaf.applyToModule_eq, bind_assoc, ok_bind, Scope.extend,
        Parent.leafDemands]

/-- A leaf is checked at its end and then extends its section. -/
theorem Inside.element_eq (h : l.Inside parent) (apart : e.Apart) :
    e.events.foldlM step l = (Station.leaf parent e).check >>= fun _ =>
      .ok { l with scope := l.scope.extend [leafOf e] } := by
  rw [h.element apart, Station.check, leafOf]
  cases e.inside.reading with
  | error fault => rfl
  | ok text => exact h.applyLeaf ⟨e.tag, text⟩

theorem Inside.extend (h : l.Inside parent) (leaves : List Leaf) :
    Inside parent { l with scope := l.scope.extend leaves } :=
  ⟨h.free, (Scope.parent?_extend ..).trans h.here⟩

theorem step_text_of_free (free : l.leaf = none) (raw : String) : l.step (.text raw) = .ok l := by
  rw [step, free]

theorem step_cdata_of_free (free : l.leaf = none) (literal : String) :
    l.step (.cdata literal) = .ok l := by
  rw [step, free]

/-- What a leaf and the leaves behind it are checked for and say, from what the ones behind do. -/
theorem Inside.leaf_behind (h : l.Inside parent) (apart : e.Apart) {rest : List Event}
    {leaves : List Element}
    (behind : ∀ k : Loading, k.Inside parent → rest.foldlM step k =
      forM (leaves.map (.leaf parent)) Station.check >>= fun _ =>
        .ok { k with scope := k.scope.extend (leaves.map leafOf) }) :
    (e.events ++ rest).foldlM step l =
      forM ((e :: leaves).map (.leaf parent)) Station.check >>= fun _ =>
        .ok { l with scope := l.scope.extend ((e :: leaves).map leafOf) } := by
  have both : l.scope.extend ((e :: leaves).map leafOf) =
      (l.scope.extend [leafOf e]).extend (leaves.map leafOf) :=
    Scope.extend_append l.scope [leafOf e] _
  rw [List.foldlM_append, h.element_eq apart, List.map_cons, List.forM_cons, both, bind_assoc,
    bind_assoc]
  simp only [ok_bind, behind _ (h.extend _)]

/-- The leaves of a section are checked one after the other and then extend it. -/
theorem Inside.content_eq (h : l.Inside parent) (apart : c.LeavesApart) :
    c.events.foldlM step l = forM (c.elements.map (.leaf parent)) Station.check >>= fun _ =>
      .ok { l with scope := l.scope.extend (c.elements.map leafOf) } := by
  induction c generalizing l with
  | nil => simp [Content.events, Content.elements, pure, Except.pure, ok_bind]
  | text raw rest ih =>
      rw [Content.events, List.foldlM_cons, step_text_of_free h.free, ok_bind]
      exact ih h apart
  | cdata literal rest ih =>
      rw [Content.events, List.foldlM_cons, step_cdata_of_free h.free, ok_bind]
      exact ih h apart
  | empty tag rest ih =>
      rw [Content.events_empty]
      exact h.leaf_behind (Element.apart_empty tag) fun k inside => ih inside apart
  | element tag inside rest _ ih =>
      rw [Content.events_element]
      exact h.leaf_behind apart.1 fun k inside => ih inside apart.2

theorem Between.begun (h : l.Between) (parent : Parent) (tag : Tag) :
    Inside parent { l with scope := parent.begin tag } :=
  ⟨h.free, parent.parent?_begin tag⟩

/-- Inside a package or module, the end of its element registers it. -/
theorem Between.close (h : l.Between) (s : Scope) (name : String) :
    Loading.closeElement { l with scope := s } name =
      .ok { l with workspace := register l.workspace s } := by
  obtain ⟨ws, scope, waiting, rooted⟩ := l
  obtain ⟨rfl, rfl, rfl⟩ := h
  rw [closeElement_of_free rfl, closeScope_eq]

/-- A section is checked and then registered. -/
theorem Between.section_eq (h : l.Between) (known : Parent.ofName? e.tag.name = some parent)
    (apart : e.inside.LeavesApart) :
    e.events.foldlM step l = forM (Station.ofElement e) Station.check >>= fun _ =>
      .ok { l with workspace := register l.workspace (scopeOf e) } := by
  have inside := h.begun parent e.tag
  simp only [Station.ofElement, scopeOf, known, List.forM_cons, bind_assoc]
  cases e with
  | empty tag =>
      have opened : l.openElement tag = _ := h.openElement known
      rw [Element.events, List.foldlM_cons, step, opened, bind_assoc, bind_assoc]
      simp only [ok_bind, h.close, Element.inside, Content.elements, leavesOf, List.map_nil,
        List.forM_nil, List.foldlM_nil, Scope.extend_nil]
      rfl
  | full tag content =>
      have opened : l.openElement tag = _ := h.openElement known
      have run := inside.content_eq apart
      simp only [Element.tag, Element.inside] at run
      rw [Element.events, List.cons_append, List.foldlM_cons, step, opened, bind_assoc]
      simp only [ok_bind, List.foldlM_append, run, bind_assoc, List.foldlM_cons,
        step, h.close]
      rfl

/-- An element that is neither package nor module is refused. -/
theorem Between.stray_eq (h : l.Between) (stray : Parent.ofName? e.tag.name = none) :
    e.events.foldlM step l = forM (Station.ofElement e) Station.check >>= fun _ =>
      .ok { l with workspace := register l.workspace (scopeOf e) } := by
  have refused := h.openElement_stray stray
  simp only [Station.ofElement, stray, List.forM_cons]
  cases e with
  | empty tag =>
      rw [Element.events, List.foldlM_cons, step]
      simp only [Element.tag] at refused ⊢
      rw [refused]
      rfl
  | full tag content =>
      rw [Element.events, List.cons_append, List.foldlM_cons, step]
      simp only [Element.tag] at refused ⊢
      rw [refused]
      rfl

theorem Between.element_eq (h : l.Between) (apart : SectionApart e) :
    e.events.foldlM step l = forM (Station.ofElement e) Station.check >>= fun _ =>
      .ok { l with workspace := register l.workspace (scopeOf e) } := by
  cases kind : Parent.ofName? e.tag.name with
  | none => exact h.stray_eq kind
  | some parent => exact h.section_eq kind (apart (by simp [kind]))

theorem Between.registered (h : l.Between) (ws : Workspace) :
    Between { l with workspace := ws } :=
  ⟨h.rooted, h.outside, h.free⟩

/-- What a section and the sections behind it are checked for and register, from what the ones
behind do. -/
theorem Between.section_behind (h : l.Between) (apart : SectionApart e) {rest : List Event}
    {sections : List Element}
    (behind : ∀ k : Loading, k.Between → rest.foldlM step k =
      forM (sections.flatMap Station.ofElement) Station.check >>= fun _ =>
        .ok { k with workspace := (sections.map scopeOf).foldl register k.workspace }) :
    (e.events ++ rest).foldlM step l =
      forM ((e :: sections).flatMap Station.ofElement) Station.check >>= fun _ =>
        .ok { l with workspace := ((e :: sections).map scopeOf).foldl register l.workspace } := by
  rw [List.foldlM_append, h.element_eq apart, List.flatMap_cons, forM_append, List.map_cons,
    List.foldl_cons, bind_assoc, bind_assoc]
  simp only [ok_bind, behind _ (h.registered _)]

/-- Sections are checked one after the other and registered in order. -/
theorem Between.content_eq (h : l.Between) (apart : ∀ e ∈ c.elements, SectionApart e) :
    c.events.foldlM step l =
      forM (c.elements.flatMap Station.ofElement) Station.check >>= fun _ =>
        .ok { l with workspace := (c.elements.map scopeOf).foldl register l.workspace } := by
  induction c generalizing l with
  | nil => rfl
  | text raw rest ih =>
      rw [Content.events, List.foldlM_cons, step_text_of_free h.free, ok_bind]
      exact ih h apart
  | cdata literal rest ih =>
      rw [Content.events, List.foldlM_cons, step_cdata_of_free h.free, ok_bind]
      exact ih h apart
  | empty tag rest ih =>
      rw [Content.elements, List.forall_mem_cons] at apart
      rw [Content.events_empty]
      exact h.section_behind apart.1 fun k between => ih between apart.2
  | element tag inside rest _ ih =>
      rw [Content.elements, List.forall_mem_cons] at apart
      rw [Content.events_element]
      exact h.section_behind apart.1 fun k between => ih between apart.2

theorem openElement_root (named : tag.name = "Workspace") :
    Loading.openElement {} tag = .ok { rooted := true } := by
  simp only [Loading.openElement, openScope, named]

/-- A root is opened, its sections are checked and registered, and it is closed. -/
theorem root_eq (named : e.tag.name = "Workspace")
    (apart : ∀ s ∈ e.inside.elements, SectionApart s) :
    e.events.foldlM step {} =
      forM (e.inside.elements.flatMap Station.ofElement) Station.check >>= fun _ =>
        .ok { rooted := true,
              workspace := (e.inside.elements.map scopeOf).foldl register .empty } := by
  cases e with
  | empty tag =>
      have opened : Loading.openElement {} tag = _ := openElement_root named
      simp only [Element.events, List.foldlM_cons, step, opened, ok_bind]
      rfl
  | full tag inside =>
      have opened : Loading.openElement {} tag = _ := openElement_root named
      have between : Between { rooted := true } := ⟨rfl, rfl, rfl⟩
      have run := between.content_eq apart
      simp only [Element.inside] at run ⊢
      simp only [Element.events, List.cons_append, List.foldlM_cons, List.foldlM_append, step,
        opened, ok_bind, run, bind_assoc]
      rfl

/-- Nothing but a root may come first. -/
theorem openElement_unrooted (other : tag.name ≠ "Workspace") :
    Loading.openElement {} tag = .error (.malformed (.unexpectedElement tag.name)) := by
  simp only [Loading.openElement, openScope]
  split
  all_goals simp_all

end Loading

end FirmwareGlue.Workspace
