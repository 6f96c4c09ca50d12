import FirmwareGlue.Proofs.Glue.Continuation
import FirmwareGlue.Proofs.Workspace.Registration

/-!
# What can influence a rendering

A module sees of the workspace what the references in its scope are to: its own and those of the
library instances it reaches, as far as they are declared for the architecture. Two workspaces that
answer these references alike render it alike. So it does not matter what else is registered, even
under the same names and with declarations of the same keywords and library classes, or where it
stands among the other registrations.

Nor does it matter what is registered later. A registration goes to the end of a catalog, where it
answers only for references that nothing was registered for. Rendering reports each such reference
that it comes to; every other result is settled.
-/

namespace FirmwareGlue

open Library

/-- What is asked of the module and of every instance that it reaches is asked of a collection. -/
theorem Library.IsCollection.forall_owner_iff {ws : Workspace} {v : View} {nodes : List Module}
    (collection : IsCollection ws v nodes) {asked : View → Prop} :
    (∀ owner, Owner ws v owner → asked owner) ↔
      asked v ∧ ∀ m ∈ nodes, asked (v.scopedTo m) := by
  constructor
  · intro h
    exact ⟨h v .itself, fun m member => h _ (.reached ((collection.mem_iff m).1 member))⟩
  · rintro ⟨itself, instances⟩ owner own
    cases own with
    | itself => exact itself
    | reached reached => exact instances _ ((collection.mem_iff _).2 reached)

namespace Catalog

variable {α : Type} [Identified α]

/-- Only entries that a reference may be to have a part in what it is answered. -/
theorem find?_eq_of_filter_eq {c d : Catalog α} {r : Reference} {related : α → Bool}
    (covers : ∀ entry, (Identified.identity entry).answers r → related entry)
    (same : d.toList.filter related = c.toList.filter related) : d.find? r = c.find? r := by
  have only (c : Catalog α) : c.find? r =
      (c.toList.filter related).find? fun entry => (Identified.identity entry).answers r := by
    rw [find?_eq, List.find?_filter]
    congr
    funext entry
    by_cases answers : (Identified.identity entry).answers r
    · simp [answers, covers entry answers]
    · simp [answers]
  rw [only, only, same]

/-- What is found once is found for good. -/
theorem find?_add {c : Catalog α} {r : Reference} {found : α} (h : c.find? r = some found)
    (entry : α) : (c.add entry).find? r = some found := by
  rw [find?_eq] at h ⊢
  rw [toList_add, List.find?_append, h, Option.some_or]

end Catalog

namespace Workspace

variable {ws other : Workspace} {v : View} {package : Package → Bool} {module : Module → Bool}

/-- Two workspaces give the same answers to the references in the scope of a module. -/
structure SameAnswers (ws other : Workspace) (v : View) : Prop where
  modules : ∀ owner, Owner ws v owner → ∀ r ∈ owner.libraryInstances,
    other.module? r = ws.module? r
  packages : ∀ owner, Owner ws v owner → ∀ r ∈ owner.packages, other.package? r = ws.package? r

/-- Two workspaces have the same related registrations in the same order. Related is at least what a
reference in the scope of a module may be to. -/
structure SameRelated (ws other : Workspace) (v : View) (package : Package → Bool)
    (module : Module → Bool) : Prop where
  covers_packages : ∀ owner, Owner ws v owner → ∀ r ∈ owner.packages, ∀ p : Package,
    p.identity.answers r → package p
  covers_modules : ∀ owner, Owner ws v owner → ∀ r ∈ owner.libraryInstances, ∀ m : Module,
    m.identity.answers r → module m
  packages : other.packages.toList.filter package = ws.packages.toList.filter package
  modules : other.modules.toList.filter module = ws.modules.toList.filter module

theorem SameRelated.sameAnswers (h : ws.SameRelated other v package module) :
    ws.SameAnswers other v where
  modules owner own r listed :=
    Catalog.find?_eq_of_filter_eq (h.covers_modules owner own r listed) h.modules
  packages owner own r listed := by
    rw [package?_eq, package?_eq]
    exact Catalog.find?_eq_of_filter_eq (h.covers_packages owner own r listed) h.packages

/-- Where all answers are the same, there is no error that may be lifted. -/
theorem SameAnswers.continues (h : ws.SameAnswers other v) :
    ws.Continues (fun _ => False) other v where
  modules owner own r listed := by
    rw [Reach.instanceOf, Reach.instanceOf, h.modules owner own r listed]
    exact .refl _ _
  packages owner own r listed := by
    rw [requirePackage, requirePackage, h.packages owner own r listed]
    exact .refl _ _

end Workspace

namespace Rendering

/-- A module is rendered alike, to the same files or with the same error, in two workspaces that
give the same answers to the references in its scope; in particular where they differ only in
registrations that none of these references is to, or in the places of such registrations. -/
theorem ofView_scoped (ws other : Workspace) (config : Config) (v : View)
    (fragments : PcdFragments) :
    (ws.SameAnswers other v →
        ofView other config v fragments = ofView ws config v fragments) ∧
      ∀ package module, ws.SameRelated other v package module →
        ofView other config v fragments = ofView ws config v fragments := by
  have alike (same : ws.SameAnswers other v) :
      ofView other config v fragments = ofView ws config v fragments :=
    (same.continues.rendering config fragments).eq fun _ _ never => never
  exact ⟨alike, fun package module related => alike related.sameAnswers⟩

/-- A package that declares one keyword of a plain GUID, for small workspaces. -/
def tokenPackage (name : String) (byte : UInt8) (symbol : String) : Package :=
  let guid : Guid := ⟨Vector.replicate 16 byte⟩
  Package.declare { identity := ⟨name, guid, "1.0"⟩ } .guid "Token" ⟨symbol, guid⟩

/-- A reference to the package with a GUID of equal bytes. -/
def tokenReference (byte : UInt8) : Reference :=
  ⟨⟨Vector.replicate 16 byte⟩, none⟩

/-- A module that asks for the keyword, and links one instance. -/
def tokenView : View where
  subject := { LibraryOrder.sampleInstance "Driver" 0 [1] [] with
    packages := [⟨tokenReference 8, .every⟩]
    guids := [⟨"Token", .every⟩] }
  arch := .x64

/-- What the module refers to, and nothing else. -/
def needed : Workspace :=
  (Workspace.empty.addPackage (tokenPackage "Core" 8 "gCoreToken")).addModule
    (LibraryOrder.sampleInstance "Debug" 1 [] [])

/-- The same among other registrations: a package that binds the keyword as well, and an instance
that is linked by nothing, both registered first. -/
def crowded : Workspace :=
  [LibraryOrder.sampleInstance "Print" 2 [] [], LibraryOrder.sampleInstance "Debug" 1 [] []].foldl
    Workspace.addModule
    ([tokenPackage "Other" 9 "gOtherToken", tokenPackage "Core" 8 "gCoreToken"].foldl
      Workspace.addPackage .empty)

theorem needed_references : ∀ owner, Owner needed tokenView owner →
    (∀ r ∈ owner.packages, r = tokenReference 8) ∧
      ∀ r ∈ owner.libraryInstances, r = tokenReference 1 := by
  have collection : IsCollection needed tokenView [LibraryOrder.sampleInstance "Debug" 1 [] []] :=
    reachable_ok rfl
  rw [collection.forall_owner_iff]
  decide

def hasByte {α : Type} [Identified α] (byte : UInt8) (entry : α) : Bool :=
  (Identified.identity entry).guid == ⟨Vector.replicate 16 byte⟩

theorem hasByte_of_answers {α : Type} [Identified α] {byte : UInt8} {entry : α}
    (h : (Identified.identity entry).answers (tokenReference byte)) : hasByte byte entry :=
  (Bool.and_eq_true_iff.1 h).1

/-- Only the package and the instance that are referred to are related. -/
theorem needed_sameRelated : needed.SameRelated crowded tokenView (hasByte 8) (hasByte 1) where
  covers_packages owner own r listed p answers := by
    rw [(needed_references owner own).1 r listed] at answers
    exact hasByte_of_answers answers
  covers_modules owner own r listed m answers := by
    rw [(needed_references owner own).2 r listed] at answers
    exact hasByte_of_answers answers
  packages := by decide +kernel
  modules := by decide +kernel

theorem needed_rendered : ∃ r, ofView needed {} tokenView {} = .ok r := by
  rw [exists_ok_iff_isSome]
  decide +kernel

theorem crowded_scoped : needed.SameAnswers crowded tokenView ∧
    needed.SameRelated crowded tokenView (hasByte 8) (hasByte 1) ∧
    (∃ r, ofView needed {} tokenView {} = .ok r) ∧
    ofView crowded {} tokenView {} = ofView needed {} tokenView {} :=
  ⟨needed_sameRelated.sameAnswers, needed_sameRelated, needed_rendered,
    (ofView_scoped needed crowded {} tokenView {}).2 _ _ needed_sameRelated⟩

end Rendering

/-! ### Later registrations -/

/-- What a reference to nothing registered is reported as. -/
def Error.Unregistered : Error → Prop
  | .packageNotFound _ | .libraryInstanceNotFound _ _ => True
  | _ => False

namespace Workspace

variable {ws : Workspace} {r : Reference} {p : Package} {m : Module}

theorem package?_extend (h : ws.package? r = some p) (next : Registration) :
    (ws.extend next).package? r = some p := by
  rw [package?_eq] at h ⊢
  cases next with
  | package other => exact Catalog.find?_add h other
  | module _ => exact h

theorem module?_extend (h : ws.module? r = some m) (next : Registration) :
    (ws.extend next).module? r = some m := by
  cases next with
  | package _ => exact h
  | module other => exact Catalog.find?_add h other

theorem package?_extendAll (h : ws.package? r = some p) (later : List Registration) :
    (ws.extendAll later).package? r = some p := by
  induction later generalizing ws with
  | nil => exact h
  | cons next rest ih => exact ih (package?_extend h next)

theorem module?_extendAll (h : ws.module? r = some m) (later : List Registration) :
    (ws.extendAll later).module? r = some m := by
  induction later generalizing ws with
  | nil => exact h
  | cons next rest ih => exact ih (module?_extend h next)

/-- Everything that has been answered is answered in the same way later. -/
theorem continues_extendAll (ws : Workspace) (later : List Registration) (v : View) :
    ws.Continues Error.Unregistered (ws.extendAll later) v where
  modules owner _ r _ := by
    cases found : ws.module? r with
    | none =>
        rw [Reach.instanceOf, found]
        exact .of_error trivial _
    | some m =>
        rw [Reach.instanceOf, Reach.instanceOf, found, module?_extendAll found]
        exact .refl _ _
  packages owner _ r _ := by
    cases found : ws.package? r with
    | none =>
        rw [requirePackage, found]
        exact .of_error trivial _
    | some p =>
        rw [requirePackage, requirePackage, found, package?_extendAll found]
        exact .refl _ _

end Workspace

namespace Rendering

/-- A module that is rendered, or fails with anything else than a reference to nothing registered,
is rendered alike after any further registrations, under whatever GUIDs, versions and names and with
whatever keywords and library classes. -/
theorem ofView_extendAll (ws : Workspace) (later : List Registration) (config : Config) (v : View)
    (fragments : PcdFragments)
    (settled : ∀ e, ofView ws config v fragments = .error e → ¬ e.Unregistered) :
    ofView (ws.extendAll later) config v fragments = ofView ws config v fragments :=
  ((ws.continues_extendAll later v).rendering config fragments).eq settled

/-- The module finds its keyword in the first package, so it is not noticed that the second one,
which only the linked instance refers to, is not registered. -/
def unnoticed : Workspace :=
  (Workspace.empty.addPackage (tokenPackage "Core" 8 "gCoreToken")).addModule
    { LibraryOrder.sampleInstance "Debug" 1 [] [] with
      packages := [⟨tokenReference 8, .every⟩, ⟨tokenReference 9, .every⟩] }

/-- The package that was lacking, another one with the GUID and version of the first, and another
instance with those of the linked one. -/
def latecomers : List Registration :=
  [.package (tokenPackage "Late" 9 "gLateToken"), .package (tokenPackage "Core" 8 "gOtherToken"),
    .module (LibraryOrder.sampleInstance "Other" 1 [5] [])]

theorem unnoticed_rendered : ∃ r, ofView unnoticed {} tokenView {} = .ok r := by
  rw [exists_ok_iff_isSome]
  decide +kernel

theorem unnoticed_settled :
    (∃ r, ofView unnoticed {} tokenView {} = .ok r) ∧
      ofView (unnoticed.extendAll latecomers) {} tokenView {} =
        ofView unnoticed {} tokenView {} := by
  refine ⟨unnoticed_rendered, ofView_extendAll _ _ _ _ _ fun e failed => ?_⟩
  obtain ⟨r, rendered⟩ := unnoticed_rendered
  rw [rendered] at failed
  cases failed

end Rendering

end FirmwareGlue
