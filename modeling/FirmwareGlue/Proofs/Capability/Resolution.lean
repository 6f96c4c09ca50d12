import FirmwareGlue.Capability.Resolution
import FirmwareGlue.Proofs.Workspace.Search

/-!
# When keywords resolve

A keyword resolves if some package of the set declares it in the name space of its kind, and all
packages before the first such one are registered. A set resolves if each of its keywords does;
otherwise the error is that of the first keyword that does not, in the order of emission.
-/

namespace FirmwareGlue.CapabilitySet

variable {ws : Workspace} {set : CapabilitySet} {packages : List Reference}
variable {request : CapabilityKind × String} {e : Error}

/-- What a package says to a request. -/
def declarationIn (request : CapabilityKind × String) (p : Package) : Option Declaration :=
  (p.declarations request.1).find? request.2

/-- A keyword is declared by some package, and all packages before are registered. -/
def Declared (ws : Workspace) (packages : List Reference) (request : CapabilityKind × String) :
    Prop :=
  ∃ d, ws.FirstAnswer (declarationIn request) packages d

/-- The error of a keyword that is not declared: a package is missing before one declares it, or
all are registered and none does. -/
def Undeclared (ws : Workspace) (packages : List Reference) (request : CapabilityKind × String)
    (e : Error) : Prop :=
  ws.FirstMissing (declarationIn request) packages e ∨
    (∀ r ∈ packages, ws.Silent (declarationIn request) r) ∧
      e = .declarationNotFound request.1 request.2

theorem requireDeclaration_eq (ws : Workspace) (packages : List Reference)
    (request : CapabilityKind × String) :
    requireDeclaration ws packages request.1 request.2 =
      ws.searchOr (declarationIn request) packages
        (.declarationNotFound request.1 request.2) :=
  Workspace.search_bind_eq (fun _ => rfl) rfl

def global (ws : Workspace) (packages : List Reference) (request : CapabilityKind × String) :
    Except Error (CapabilityKind × ResolvedGuid) := do
  let d ← requireDeclaration ws packages request.1 request.2
  .ok (request.1, ⟨request.2, d.symbol, d.guid⟩)

/-- A keyword resolves to the declaration of its own kind in the first package that has one. -/
def Resolves (ws : Workspace) (packages : List Reference) (request : CapabilityKind × String)
    (entry : CapabilityKind × ResolvedGuid) : Prop :=
  ∃ d, ws.FirstAnswer (declarationIn request) packages d ∧
    entry = (request.1, ⟨request.2, d.symbol, d.guid⟩)

theorem global_ok_iff {entry : CapabilityKind × ResolvedGuid} :
    global ws packages request = .ok entry ↔ Resolves ws packages request entry := by
  rw [global, bind_ok_iff, requireDeclaration_eq]
  simp only [Workspace.searchOr_ok_iff, Except.ok.injEq, Resolves, @eq_comm _ _ entry]

theorem exists_global_iff :
    (∃ entry, global ws packages request = .ok entry) ↔ Declared ws packages request := by
  simp only [global_ok_iff, Resolves, Declared]
  constructor
  · rintro ⟨_, d, first, _⟩
    exact ⟨d, first⟩
  · rintro ⟨d, first⟩
    exact ⟨_, d, first, rfl⟩

theorem global_error_iff :
    global ws packages request = .error e ↔ Undeclared ws packages request e := by
  rw [global, bind_error_iff, requireDeclaration_eq, Workspace.searchOr_error_iff]
  exact or_iff_left (fun ⟨_, _, impossible⟩ => nomatch impossible)

theorem not_declared_iff :
    ¬ Declared ws packages request ↔ ∃ e, Undeclared ws packages request e := by
  simp only [← global_error_iff, ← exists_global_iff, exists_ok_iff, not_forall, not_not]

/-- A set is resolved request by request, and the globals are then listed. -/
theorem resolve_eq (set : CapabilitySet) (ws : Workspace) :
    set.resolve ws = set.requests.mapM (global ws set.packages) >>= fun entries =>
      .ok (entries.foldl (fun r entry => r.add entry.1 entry.2) {}) := by
  rw [← foldlM_eq_mapM, resolve]
  congr
  funext r request
  cases h : requireDeclaration ws set.packages request.1 request.2 with
  | error e => simp [global, h, bind, Except.bind]
  | ok d => simp [global, h, bind, Except.bind]

theorem exists_resolve_iff : (∃ resolution, set.resolve ws = .ok resolution) ↔
    ∀ request ∈ set.requests, Declared ws set.packages request := by
  simp only [← exists_global_iff, ← exists_mapM_ok_iff, resolve_eq, bind_ok_iff]
  constructor
  · rintro ⟨_, entries, h, _⟩
    exact ⟨entries, h⟩
  · rintro ⟨entries, h⟩
    exact ⟨_, entries, h, rfl⟩

/-- The error of the first keyword that is not declared. -/
def FirstUndeclared (ws : Workspace) (set : CapabilitySet) (e : Error) : Prop :=
  ∃ before request after, set.requests = before ++ request :: after ∧
    (∀ earlier ∈ before, Declared ws set.packages earlier) ∧
    ¬ Declared ws set.packages request ∧ Undeclared ws set.packages request e

/-- A set fails to resolve with the error of the first keyword that is not declared. -/
theorem resolve_error_iff : set.resolve ws = .error e ↔ FirstUndeclared ws set e := by
  have listed : set.resolve ws = .error e ↔
      FirstError (global ws set.packages) set.requests e := by
    rw [resolve_eq, bind_error_iff, mapM_error_iff]
    exact or_iff_left (fun ⟨_, _, impossible⟩ => nomatch impossible)
  rw [listed]
  constructor
  · rintro ⟨before, request, after, split, earlier, failure⟩
    have undeclared := global_error_iff.1 failure
    exact ⟨before, request, after, split,
      fun other member => exists_global_iff.1 (earlier other member),
      not_declared_iff.2 ⟨e, undeclared⟩, undeclared⟩
  · rintro ⟨before, request, after, split, earlier, _, failure⟩
    exact ⟨before, request, after, split,
      fun other member => exists_global_iff.2 (earlier other member), global_error_iff.2 failure⟩

end FirmwareGlue.CapabilitySet
