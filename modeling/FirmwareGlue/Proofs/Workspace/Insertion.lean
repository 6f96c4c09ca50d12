import FirmwareGlue.Proofs.Workspace.Nesting

/-!
# Elements that the loader does not know

A place for a leaf is one where the loader is directly inside a package or module. An element that
is put there is handed on as a leaf with all the text inside it, provided that no element inside has
its name; and a leaf that is not known is left out. So an unknown element is harmless at every such
place, or else there is a document that it spoils: it ends early, the end tag that is left over
closes the package or module, and whatever leaf follows is refused.
-/

namespace FirmwareGlue.Workspace

open Markup (Tag Event Content Element)

/-- What may hold leaves. -/
inductive Parent where
  | package
  | module
  deriving DecidableEq

namespace Parent

/-- The names of the leaves that say something in a parent. -/
def leafNames : Parent → List String
  | package => ["ModuleTypeHeader", "LibraryClass", "Ppi", "Protocol", "Guid"]
  | module => ["Package", "LibraryClass", "LibraryInstance", "Ppi", "PpiNotify", "Protocol",
      "ProtocolNotify", "Guid", "EntryPoint", "UnloadImage", "Constructor", "Destructor",
      "SetVirtualAddressMapCallBack", "ExitBootServicesCallBack", "SpecVersion", "Pcd",
      "DriverBinding", "ComponentName", "DriverConfiguration", "DriverDiagnostics"]

end Parent

/-- The parent that the loader is inside of. -/
def Scope.parent? : Scope → Option Parent
  | .outside => none
  | .package _ => some .package
  | .module _ => some .module

namespace Leaf

variable {leaf : Leaf}

theorem applyToPackage_of_unknown (unknown : leaf.tag.name ∉ Parent.package.leafNames)
    (p : Package) : leaf.applyToPackage p = .ok p := by
  rw [applyToPackage]
  split
  all_goals first
    | rfl
    | simp_all [Parent.leafNames]

theorem applyToModule_of_unknown (unknown : leaf.tag.name ∉ Parent.module.leafNames)
    (m : Module) : leaf.applyToModule m = .ok m := by
  have model : leaf.applyToDriverModel m.driverModel = .ok m.driverModel := by
    rw [applyToDriverModel]
    split
    all_goals first
      | rfl
      | simp_all [Parent.leafNames]
  rw [applyToModule]
  split
  all_goals first
    | rw [model]; rfl
    | simp_all [Parent.leafNames]

end Leaf

namespace Loading

variable {l k : Loading} {leaf : Leaf} {parent : Parent} {e : Element}

/-- The loader is directly inside a package or module. -/
structure Inside (parent : Parent) (l : Loading) : Prop where
  free : l.leaf = none
  here : l.scope.parent? = some parent

theorem Inside.within (h : l.Inside parent) : l.scope ≠ .outside := by
  intro outside
  have here := h.here
  rw [outside] at here
  cases here

theorem applyLeaf_of_pending (l : Loading) (waiting : Option Leaf) (leaf : Leaf) :
    ({ l with leaf := waiting } : Loading).applyLeaf leaf = l.applyLeaf leaf := by
  obtain ⟨ws, scope, _, rooted⟩ := l
  cases scope <;> rfl

theorem Inside.applyLeaf_of_unknown (h : l.Inside parent)
    (unknown : leaf.tag.name ∉ parent.leafNames) : l.applyLeaf leaf = .ok l := by
  obtain ⟨ws, scope, _, rooted⟩ := l
  obtain ⟨free, here⟩ := h
  cases free
  cases scope with
  | outside => cases here
  | package p =>
      cases here
      simp only [applyLeaf, Leaf.applyToPackage_of_unknown unknown, ok_bind]
  | module m =>
      cases here
      simp only [applyLeaf, Leaf.applyToModule_of_unknown unknown, ok_bind]

theorem Inside.of_applyLeaf (h : l.Inside parent) (applied : l.applyLeaf leaf = .ok k) :
    k.Inside parent := by
  obtain ⟨ws, scope, _, rooted⟩ := l
  obtain ⟨_, here⟩ := h
  cases scope with
  | outside => cases here
  | package p =>
      rw [applyLeaf, bind_ok_iff] at applied
      obtain ⟨q, _, made⟩ := applied
      cases made
      exact ⟨rfl, here⟩
  | module m =>
      rw [applyLeaf, bind_ok_iff] at applied
      obtain ⟨n, _, made⟩ := applied
      cases made
      exact ⟨rfl, here⟩

theorem Inside.closeElement (h : l.Inside parent) (tag : Tag) (text : String) :
    Loading.closeElement { l with leaf := some ⟨tag, text⟩ } tag.name =
      l.applyLeaf ⟨tag, text⟩ := by
  have awaits : Awaits { l with leaf := some ⟨tag, text⟩ } ⟨tag, text⟩ := ⟨rfl, h.within⟩
  rw [← applyLeaf_of_pending l (some ⟨tag, text⟩)]
  exact awaits.closeElement_self

/-- An element inside a package or module is handed on as a leaf, with all the text inside it. -/
theorem Inside.element (h : l.Inside parent) (apart : e.Apart) :
    e.events.foldlM step l =
      e.inside.reading.mapError Error.markup >>= fun text => l.applyLeaf ⟨e.tag, text⟩ := by
  cases e with
  | empty tag =>
      change (l.openElement tag >>= fun m => m.closeElement tag.name) >>= pure = _
      rw [openElement_of_inside h.free h.within, ok_bind, h.closeElement, bind_pure]
      rfl
  | full tag inside =>
      have awaits : Awaits { l with leaf := some ⟨tag, ""⟩ } ⟨tag, ""⟩ := ⟨rfl, h.within⟩
      have others : tag.name ∉ inside.names := apart
      rw [Element.events, List.cons_append, List.foldlM_cons, step,
        openElement_of_inside h.free h.within, ok_bind, List.foldlM_append, awaits.content others]
      change _ = inside.reading.mapError Error.markup >>= fun text => l.applyLeaf ⟨tag, text⟩
      cases inside.reading with
      | error fault => rfl
      | ok text =>
          change Loading.closeElement { l with leaf := some ⟨tag, "" ++ text⟩ } tag.name >>=
            pure = _
          rw [h.closeElement, bind_pure, String.empty_append]
          rfl

/-- An element that ends early leaves the package or module with its own end tag. -/
theorem Inside.outside_of_not_apart (h : l.Inside parent) (early : ¬ e.Apart)
    (run : e.events.foldlM step l = .ok k) : k.leaf = none ∧ k.scope = .outside := by
  cases e with
  | empty tag => exact absurd (by simp [Element.Apart, Element.inside, Content.names]) early
  | full tag inside =>
      have awaits : Awaits { l with leaf := some ⟨tag, ""⟩ } ⟨tag, ""⟩ := ⟨rfl, h.within⟩
      rw [Element.events, List.cons_append, List.foldlM_cons, step,
        openElement_of_inside h.free h.within, ok_bind, List.foldlM_append, bind_ok_iff] at run
      obtain ⟨m, between, closed⟩ := run
      have free := (content_settles between).ended _ awaits (not_not.1 early)
      rw [List.foldlM_cons, step, closeElement_of_free free, ok_bind] at closed
      cases closed
      simp [free]

theorem Inside.of_element (h : l.Inside parent) (apart : e.Apart)
    (run : e.events.foldlM step l = .ok k) : k.Inside parent := by
  rw [h.element apart, bind_ok_iff] at run
  obtain ⟨text, _, applied⟩ := run
  exact h.of_applyLeaf applied

/-- Behind leaves that do not end early, the loader is still inside. -/
theorem Inside.of_content {c : Content} (h : l.Inside parent) (apart : c.LeavesApart)
    (run : c.events.foldlM step l = .ok k) : k.Inside parent := by
  induction c generalizing l with
  | nil =>
      cases run
      exact h
  | text raw rest ih =>
      rw [Content.events, List.foldlM_cons, step, h.free, ok_bind] at run
      exact ih h apart run
  | cdata literal rest ih =>
      rw [Content.events, List.foldlM_cons, step, h.free, ok_bind] at run
      exact ih h apart run
  | empty tag rest ih =>
      rw [Content.events_empty, List.foldlM_append, bind_ok_iff] at run
      obtain ⟨m, first, later⟩ := run
      exact ih (h.of_element (Element.apart_empty tag) first) apart later
  | element tag inside rest _ ih =>
      rw [Content.events_element, List.foldlM_append, bind_ok_iff] at run
      obtain ⟨m, first, later⟩ := run
      have others : (Element.full tag inside).Apart := apart.1
      exact ih (h.of_element others first) apart.2 later

end Loading

/-- A place in a document where a child of a package or module may stand. -/
def At (parent : Parent) (before : List Event) : Prop :=
  ∃ l, before.foldlM Loading.step {} = .ok l ∧ l.Inside parent

variable {parent : Parent} {before after : List Event} {e : Element} {l : Loading}

theorem ofEvents_append (run : before.foldlM Loading.step {} = .ok l) (after : List Event) :
    ofEvents (before ++ after) = after.foldlM Loading.step l >>= Loading.finish := by
  rw [ofEvents, List.foldlM_append, run, ok_bind]

/-- Behind events that lead from inside to inside there is such a place again. -/
theorem At.behind {events : List Event} (place : At parent before)
    (keeps : ∀ l k : Loading, l.Inside parent → events.foldlM Loading.step l = .ok k →
      k.Inside parent) {ws : Workspace} (loads : ofEvents (before ++ events ++ after) = .ok ws) :
    At parent (before ++ events) := by
  obtain ⟨l, run, inside⟩ := place
  rw [List.append_assoc, ofEvents_append run, List.foldlM_append, bind_ok_iff] at loads
  obtain ⟨m, between, _⟩ := loads
  obtain ⟨k, first, _⟩ := bind_ok_iff.1 between
  exact ⟨k, by rw [List.foldlM_append, run, ok_bind, first], keeps l k inside first⟩

/-- An unknown element that does not end early is left out. -/
theorem ofEvents_insert (place : At parent before) (unknown : e.tag.name ∉ parent.leafNames)
    (apart : e.Apart) {text : String} (reads : e.inside.reading = .ok text) (after : List Event) :
    ofEvents (before ++ e.events ++ after) = ofEvents (before ++ after) := by
  obtain ⟨l, run, inside⟩ := place
  have same : e.events.foldlM Loading.step l = .ok l := by
    rw [inside.element apart, reads]
    exact inside.applyLeaf_of_unknown unknown
  rw [List.append_assoc, ofEvents_append run, ofEvents_append run, List.foldlM_append, same,
    ok_bind]

/-- An element without content that no parent knows. -/
def marker : Element := .empty ⟨"Marker", []⟩

theorem marker_unknown (parent : Parent) : marker.tag.name ∉ parent.leafNames := by
  cases parent <;> decide

/-- The marker is left out everywhere. -/
theorem ofEvents_marker (place : At parent before) (after : List Event) :
    ofEvents (before ++ (marker.events ++ after)) = ofEvents (before ++ after) := by
  rw [← List.append_assoc]
  exact ofEvents_insert place (marker_unknown parent) (Element.apart_empty _) rfl after

/-- Behind an element that ends early, even an unknown element is refused. -/
theorem not_ofEvents_of_not_apart (place : At parent before) (early : ¬ e.Apart)
    (after : List Event) (ws : Workspace) :
    ofEvents (before ++ e.events ++ (marker.events ++ after)) ≠ .ok ws := by
  intro loads
  obtain ⟨l, run, inside⟩ := place
  rw [List.append_assoc, ofEvents_append run, List.foldlM_append, bind_ok_iff] at loads
  obtain ⟨m, between, _⟩ := loads
  obtain ⟨k, ended, later⟩ := bind_ok_iff.1 between
  obtain ⟨_, outside⟩ := inside.outside_of_not_apart early ended
  have refused : k.step (.empty ⟨"Marker", []⟩) =
      .error (.malformed (.unexpectedElement "Marker")) := by
    rw [Loading.step, Loading.openElement, outside]
    cases rooted : k.rooted <;> simp [Loading.openScope, rooted, bind, Except.bind]
  rw [marker, Element.events, List.cons_append, List.foldlM_cons, refused] at later
  cases later

def sampleIdentity : Identity := ⟨"Sample", ⟨Vector.replicate 16 0⟩, "1.0"⟩

/-- The tag of the only parent in small documents. -/
def sampleTag : Parent → Tag
  | .package => ⟨"Package", [("Name", "Sample"), ("Guid", "00000000-0000-0000-0000-000000000000")]⟩
  | .module => ⟨"Module", [("Name", "Sample"), ("Guid", "00000000-0000-0000-0000-000000000000"),
      ("ModuleType", "PEIM")]⟩

/-- A small document up to the inside of its only parent. -/
def sampleBefore (parent : Parent) : List Event :=
  [.opening ⟨"Workspace", []⟩, .opening (sampleTag parent)]

/-- The end of a small document, from the end of its only parent. -/
def sampleAfter (parent : Parent) : List Event :=
  [.closing (sampleTag parent).name, .closing "Workspace"]

/-- How far a small document has been loaded inside its only parent. -/
def sampleLoading (parent : Parent) : Loading where
  rooted := true
  scope :=
    match parent with
    | .package => .package { identity := sampleIdentity }
    | .module => .module { identity := sampleIdentity, type := .peim }

theorem readGuid_zeros :
    readGuid "00000000-0000-0000-0000-000000000000" = .ok ⟨Vector.replicate 16 0⟩ := by
  have zeros : Guid.parse? (Text.trim "00000000-0000-0000-0000-000000000000") =
      some ⟨Vector.replicate 16 0⟩ := by
    decide +kernel
  rw [readGuid, zeros]

theorem readModuleType_peim : readModuleType "PEIM" = .ok .peim := by
  have peim : ModuleType.ofSpelling? (Text.trim "PEIM") = some .peim := by decide +kernel
  rw [readModuleType, peim]

theorem sample_run (parent : Parent) :
    (sampleBefore parent).foldlM Loading.step {} = .ok (sampleLoading parent) := by
  have guid : requiredGuid (sampleTag parent) "Guid" = .ok ⟨Vector.replicate 16 0⟩ := by
    cases parent <;> exact readGuid_zeros
  have root : Loading.step {} (.opening ⟨"Workspace", []⟩) = .ok { rooted := true } := rfl
  cases parent with
  | package =>
      have made : packageOf (sampleTag .package) = .ok { identity := sampleIdentity } := by
        rw [packageOf, guid]
        rfl
      have opened : Loading.step { rooted := true } (.opening (sampleTag .package)) =
          .ok (sampleLoading .package) := by
        rw [Loading.step, Loading.openElement]
        simp only [Loading.openScope, sampleTag] at made ⊢
        rw [made]
        rfl
      rw [sampleBefore, List.foldlM_cons, root, ok_bind, List.foldlM_cons, opened]
      rfl
  | module =>
      have type : requiredModuleType (sampleTag .module) "ModuleType" = .ok .peim :=
        readModuleType_peim
      have made : moduleOf (sampleTag .module) =
          .ok { identity := sampleIdentity, type := .peim } := by
        rw [moduleOf, guid, type]
        rfl
      have opened : Loading.step { rooted := true } (.opening (sampleTag .module)) =
          .ok (sampleLoading .module) := by
        rw [Loading.step, Loading.openElement]
        simp only [Loading.openScope, sampleTag] at made ⊢
        rw [made]
        rfl
      rw [sampleBefore, List.foldlM_cons, root, ok_bind, List.foldlM_cons, opened]
      rfl

theorem sample_at (parent : Parent) : At parent (sampleBefore parent) :=
  ⟨_, sample_run parent, rfl, by cases parent <;> rfl⟩

theorem sample_loads (parent : Parent) :
    ∃ ws, ofEvents (sampleBefore parent ++ sampleAfter parent) = .ok ws := by
  rw [ofEvents_append (sample_run parent)]
  cases parent with
  | package => exact ⟨_, rfl⟩
  | module => exact ⟨_, rfl⟩

/-- An unknown element is harmless in every document exactly if it does not end early and its text
can be read. -/
theorem harmless_iff (unknown : e.tag.name ∉ parent.leafNames) :
    (∀ before after ws, At parent before → ofEvents (before ++ after) = .ok ws →
        ofEvents (before ++ e.events ++ after) = .ok ws) ↔
      e.Apart ∧ ∃ text, e.inside.reading = .ok text := by
  constructor
  · intro harmless
    have place := sample_at parent
    obtain ⟨ws, loads⟩ := sample_loads parent
    have apart : e.Apart := by
      by_contra early
      have marked := (ofEvents_marker place _).trans loads
      exact not_ofEvents_of_not_apart place early _ ws (harmless _ _ ws place marked)
    refine ⟨apart, ?_⟩
    rw [exists_ok_iff]
    intro fault unreadable
    have spoiled := harmless _ _ ws place loads
    obtain ⟨l, run, inside⟩ := place
    rw [List.append_assoc, ofEvents_append run, List.foldlM_append, inside.element apart,
      unreadable] at spoiled
    cases spoiled
  · rintro ⟨apart, text, reads⟩ before after ws place loads
    rw [ofEvents_insert place unknown apart reads, loads]

/-- What stands inside a leaf only contributes its text exactly if the leaf does not end early. Some
document has to accept the leaf, since otherwise there is nothing to compare. -/
theorem contributes_iff {tag : Tag} {inside : Content} {text : String}
    (reads : inside.reading = .ok text) (accepted : ∃ before after ws, At parent before ∧
      ofEvents (before ++ (Element.full tag (.cdata text .nil)).events ++ after) = .ok ws) :
    (∀ before after, At parent before →
        ofEvents (before ++ (Element.full tag inside).events ++ after) =
          ofEvents (before ++ (Element.full tag (.cdata text .nil)).events ++ after)) ↔
      (Element.full tag inside).Apart := by
  have plain : (Element.full tag (.cdata text .nil)).Apart := by
    simp [Element.Apart, Element.inside, Content.names]
  constructor
  · intro equal
    by_contra early
    obtain ⟨before, after, ws, place, loads⟩ := accepted
    have next := place.behind (fun _ _ inside run => inside.of_element plain run) loads
    have marked := (ofEvents_marker next after).trans loads
    rw [← equal before _ place] at marked
    exact not_ofEvents_of_not_apart place early after ws marked
  · rintro apart before after ⟨l, run, here⟩
    have literal : (Content.cdata text .nil).reading = .ok text :=
      congrArg Except.ok String.append_empty
    have same : (Element.full tag inside).events.foldlM Loading.step l =
        (Element.full tag (.cdata text .nil)).events.foldlM Loading.step l := by
      rw [here.element apart, here.element plain]
      simp only [Element.inside, Element.tag, reads, literal]
    rw [List.append_assoc, List.append_assoc, ofEvents_append run, ofEvents_append run,
      List.foldlM_append, List.foldlM_append, same]

/-- An element that is not known is harmless in every document exactly if no element inside has its
name and its text can be read. Under the same condition on names, and no other, what stands inside a
leaf only contributes its text. -/
theorem nested_markup_exact (parent : Parent) :
    (∀ e : Element, e.tag.name ∉ parent.leafNames →
      ((∀ before after ws, At parent before → ofEvents (before ++ after) = .ok ws →
          ofEvents (before ++ e.events ++ after) = .ok ws) ↔
        e.Apart ∧ ∃ text, e.inside.reading = .ok text)) ∧
      ∀ tag inside text, Content.reading inside = .ok text →
        (∃ before after ws, At parent before ∧
          ofEvents (before ++ (Element.full tag (.cdata text .nil)).events ++ after) = .ok ws) →
        ((∀ before after, At parent before →
            ofEvents (before ++ (Element.full tag inside).events ++ after) =
              ofEvents (before ++ (Element.full tag (.cdata text .nil)).events ++ after)) ↔
          (Element.full tag inside).Apart) := by
  refine ⟨?_, ?_⟩
  · intro e unknown
    exact harmless_iff unknown
  · intro tag inside text reads accepted
    exact contributes_iff reads accepted

/-- A document with a module that has one entry point, and something before it. -/
def entryPointDocument (extra : String) : String :=
  "<Workspace><Module Name=\"Sample\" Guid=\"00000000-0000-0000-0000-000000000000\" "
    ++ "ModuleType=\"PEIM\">" ++ extra ++ "<EntryPoint>Start</EntryPoint></Module></Workspace>"

/-- An unknown element with an empty one of its name inside makes the loader refuse the entry point
behind it. -/
theorem entry_point_refused :
    (∃ ws, ofDocument (entryPointDocument "") = .ok ws) ∧
      ofDocument (entryPointDocument "<Extra><Extra/></Extra>") =
        .error (.malformed (.unexpectedElement "EntryPoint")) := by
  let behind : List Event := [.opening ⟨"EntryPoint", []⟩, .text "Start", .closing "EntryPoint"]
  let extra : List Event := [.opening ⟨"Extra", []⟩, .empty ⟨"Extra", []⟩, .closing "Extra"]
  have without : Markup.Transcript.ofText (entryPointDocument "") =
      ⟨sampleBefore .module ++ (behind ++ sampleAfter .module), none⟩ := by
    decide +kernel
  have within : Markup.Transcript.ofText (entryPointDocument "<Extra><Extra/></Extra>") =
      ⟨sampleBefore .module ++ (extra ++ behind ++ sampleAfter .module), none⟩ := by
    decide +kernel
  rw [ofDocument, ofDocument, without, within, ofTranscript_of_no_fault, ofTranscript_of_no_fault,
    ofEvents_append (sample_run .module), ofEvents_append (sample_run .module)]
  exact ⟨⟨_, rfl⟩, rfl⟩

end FirmwareGlue.Workspace
