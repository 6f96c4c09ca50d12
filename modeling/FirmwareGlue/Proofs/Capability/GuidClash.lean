import FirmwareGlue.Proofs.Glue.Globals

/-!
# Symbols that are declared with several GUIDs

A symbol is defined once, for the first keyword that resolves to it, and with the GUID of that
keyword's declaration. Nothing compares this GUID with those of the later keywords that resolve to
the same symbol. So a keyword has the GUID of its own declaration exactly if the first keyword of
its symbol brings the same one, and all keywords of a set do exactly if no two of them resolve to
one symbol with different GUIDs. Otherwise the generated source is accepted by a compiler, and a
capability has the GUID of another one.
-/

namespace FirmwareGlue

namespace Workspace

variable {α : Type} {ws : Workspace} {answer : Package → Option α} {packages : List Reference}
variable {x y : α}

theorem FirstAnswer.unique (first : ws.FirstAnswer answer packages x)
    (second : ws.FirstAnswer answer packages y) : x = y := by
  have same := (search_of_firstAnswer first).symm.trans (search_of_firstAnswer second)
  exact Option.some.inj (Except.ok.inj same)

end Workspace

namespace CapabilitySet

open Resolution

variable {ws : Workspace} {set : CapabilitySet} {resolution : Resolution}
variable {request : CapabilityKind × String} {d : Declaration} {g h : ResolvedGuid}

/-- A keyword resolves to a declaration. -/
def HasDeclaration (ws : Workspace) (set : CapabilitySet) (request : CapabilityKind × String)
    (d : Declaration) : Prop :=
  ws.FirstAnswer (declarationIn request) set.packages d

/-- A keyword is the first one of a set that resolves to its symbol. -/
def Introduces (ws : Workspace) (set : CapabilitySet) (request : CapabilityKind × String)
    (d : Declaration) : Prop :=
  HasDeclaration ws set request d ∧ ∃ before after, set.requests = before ++ request :: after ∧
    ∀ earlier ∈ before, ∀ other, HasDeclaration ws set earlier other → other.symbol ≠ d.symbol

/-- No two keywords of a set resolve to one symbol with different GUIDs. -/
def Consistent (ws : Workspace) (set : CapabilitySet) : Prop :=
  ∀ a ∈ set.requests, ∀ b ∈ set.requests, ∀ d e,
    HasDeclaration ws set a d → HasDeclaration ws set b e → d.symbol = e.symbol → d.guid = e.guid

/-- The symbol of a declaration is defined with its GUID. -/
def Keeps (resolution : Resolution) (d : Declaration) : Prop :=
  ∃ g ∈ resolution.toList, g.symbol = d.symbol ∧ g.guid = d.guid

/-- A cut of what the keywords resolve to cuts the keywords. -/
theorem exists_request_split {before after : List (CapabilityKind × ResolvedGuid)}
    {entry : CapabilityKind × ResolvedGuid}
    (each : List.Forall₂ (Resolves ws set.packages) set.requests (before ++ entry :: after)) :
    ∃ first request last, set.requests = first ++ request :: last ∧
      List.Forall₂ (Resolves ws set.packages) first before ∧
      Resolves ws set.packages request entry := by
  have front := List.forall₂_take_append _ _ _ each
  have back := List.forall₂_drop_append _ _ _ each
  obtain ⟨request, last, here, _, cut⟩ := List.forall₂_cons_right_iff.1 back
  refine ⟨_, request, last, ?_, front, here⟩
  rw [← cut, List.take_append_drop]

theorem exists_entry_split {first last : List (CapabilityKind × String)}
    {entries : List (CapabilityKind × ResolvedGuid)}
    (each : List.Forall₂ (Resolves ws set.packages) (first ++ request :: last) entries) :
    ∃ before entry after, entries = before ++ entry :: after ∧
      List.Forall₂ (Resolves ws set.packages) first before ∧
      Resolves ws set.packages request entry := by
  have turned := each.flip
  have front := List.forall₂_take_append _ _ _ turned
  have back := List.forall₂_drop_append _ _ _ turned
  obtain ⟨entry, after, here, _, cut⟩ := List.forall₂_cons_right_iff.1 back
  refine ⟨_, entry, after, ?_, front.flip, here⟩
  rw [← cut, List.take_append_drop]

/-- The symbols of what some keywords resolve to are those of their declarations. -/
theorem mem_symbolsOf_iff {requests : List (CapabilityKind × String)}
    {entries : List (CapabilityKind × ResolvedGuid)}
    (each : List.Forall₂ (Resolves ws set.packages) requests entries) {symbol : String} :
    symbol ∈ symbolsOf entries ↔
      ∃ request ∈ requests, ∃ d, HasDeclaration ws set request d ∧ d.symbol = symbol := by
  have related : requests.mapM (global ws set.packages) = .ok entries := by
    rw [mapM_ok_iff]
    simpa only [global_ok_iff] using each
  simp only [symbolsOf, List.mem_map, mem_results_iff related, global_ok_iff]
  constructor
  · rintro ⟨_, ⟨request, listed, d, first, rfl⟩, rfl⟩
    exact ⟨request, listed, d, first, rfl⟩
  · rintro ⟨request, listed, d, first, rfl⟩
    exact ⟨_, ⟨request, listed, d, first, rfl⟩, rfl⟩

/-- The globals of a set are those of the keywords that are the first ones of their symbols. -/
theorem mem_toList_iff (resolved : set.resolve ws = .ok resolution) :
    g ∈ resolution.toList ↔ ∃ request d, Introduces ws set request d ∧
      g = ⟨request.2, d.symbol, d.guid⟩ := by
  obtain ⟨entries, each, all, _⟩ := resolve_ok_iff.1 resolved
  simp only [all, List.mem_map, mem_firstOfSymbol_iff]
  constructor
  · rintro ⟨_, ⟨before, after, rfl, new⟩, rfl⟩
    obtain ⟨first, request, last, split, front, d, declared, rfl⟩ := exists_request_split each
    refine ⟨request, d, ⟨declared, first, last, split, ?_⟩, rfl⟩
    intro earlier member other known same
    exact new ((mem_symbolsOf_iff front).2 ⟨earlier, member, other, known, same⟩)
  · rintro ⟨request, d, ⟨declared, first, last, split, new⟩, rfl⟩
    rw [split] at each
    obtain ⟨before, _, after, cut, front, e, resolves, rfl⟩ := exists_entry_split each
    obtain rfl : e = d := resolves.unique declared
    refine ⟨_, ⟨before, after, cut, ?_⟩, rfl⟩
    intro known
    obtain ⟨earlier, member, other, has, same⟩ := (mem_symbolsOf_iff front).1 known
    exact new earlier member other has same

/-- A symbol is defined once, so one global is known by its symbol. -/
theorem eq_of_symbol_eq (resolved : set.resolve ws = .ok resolution) (hg : g ∈ resolution.toList)
    (hh : h ∈ resolution.toList) (same : g.symbol = h.symbol) : g = h := by
  obtain ⟨entries, _, all, _⟩ := resolve_ok_iff.1 resolved
  have once : (resolution.toList.map ResolvedGuid.symbol).Nodup := by
    have symbols := nodup_symbolsOf_firstOfSymbol entries
    rw [all, List.map_map]
    exact symbols
  exact List.inj_on_of_nodup_map once hg hh same

/-- Every keyword has a declaration, and the symbol of that one is defined. -/
theorem exists_global (resolved : set.resolve ws = .ok resolution)
    (listed : request ∈ set.requests) :
    ∃ d, HasDeclaration ws set request d ∧ ∃ g ∈ resolution.toList, g.symbol = d.symbol := by
  obtain ⟨d, declared, once⟩ := symbol_once resolved listed
  have member : d.symbol ∈ resolution.toList.map ResolvedGuid.symbol :=
    List.count_pos_iff.1 (by rw [once]; exact Nat.one_pos)
  obtain ⟨g, defined, same⟩ := List.mem_map.1 member
  exact ⟨d, declared, g, defined, same⟩

/-- A declaration keeps its GUID exactly if the first keyword of its symbol brings the same one. -/
theorem keeps_iff (resolved : set.resolve ws = .ok resolution) (listed : request ∈ set.requests)
    (declared : HasDeclaration ws set request d) :
    Keeps resolution d ↔
      ∀ first e, Introduces ws set first e → e.symbol = d.symbol → e.guid = d.guid := by
  constructor
  · rintro ⟨g, defined, symbol, guid⟩ first e introduces same
    have other := (mem_toList_iff resolved).2 ⟨first, e, introduces, rfl⟩
    rw [← guid, eq_of_symbol_eq resolved defined other (symbol.trans same.symm)]
  · intro brought
    obtain ⟨_, same, g, defined, symbol⟩ := exists_global resolved listed
    obtain rfl := declared.unique same
    obtain ⟨first, e, introduces, rfl⟩ := (mem_toList_iff resolved).1 defined
    exact ⟨_, defined, symbol, brought first e introduces symbol⟩

/-- All keywords keep their GUIDs exactly if no two of them resolve to one symbol with different
ones. -/
theorem forall_keeps_iff (resolved : set.resolve ws = .ok resolution) :
    (∀ request ∈ set.requests, ∃ d, HasDeclaration ws set request d ∧ Keeps resolution d) ↔
      Consistent ws set := by
  constructor
  · intro kept a inA b inB d e declared declared' same
    obtain ⟨_, known, g, defined, symbol, guid⟩ := kept a inA
    obtain rfl := declared.unique known
    obtain ⟨_, known', h, defined', symbol', guid'⟩ := kept b inB
    obtain rfl := declared'.unique known'
    have one : g = h :=
      eq_of_symbol_eq resolved defined defined' (by rw [symbol, symbol', same])
    rw [← guid, ← guid', one]
  · intro consistent request listed
    obtain ⟨d, declared, _⟩ := exists_global resolved listed
    refine ⟨d, declared, (keeps_iff resolved listed declared).2 ?_⟩
    rintro first e ⟨introduces, before, after, split, _⟩ same
    exact consistent first (by simp [split]) request listed e d introduces declared same

structure GuidMeaning (ws : Workspace) (set : CapabilitySet) (resolution : Resolution) :
    Prop where
  /-- The globals are those of the first keywords of their symbols, with their declarations. -/
  globals : ∀ g, g ∈ resolution.toList ↔ ∃ request d, Introduces ws set request d ∧
    g = ⟨request.2, d.symbol, d.guid⟩
  /-- Every keyword has one declaration, and one global is defined for the symbol of that. -/
  defined : ∀ request ∈ set.requests, ∃ d, (∀ e, HasDeclaration ws set request e ↔ e = d) ∧
    ∃ g ∈ resolution.toList, g.symbol = d.symbol ∧
      ∀ other ∈ resolution.toList, other.symbol = d.symbol → other = g
  /-- That global has the keyword's own GUID if the first keyword of the symbol brings it. -/
  kept : ∀ request ∈ set.requests, ∀ d, HasDeclaration ws set request d →
    (Keeps resolution d ↔
      ∀ first e, Introduces ws set first e → e.symbol = d.symbol → e.guid = d.guid)
  /-- No GUID is replaced if the declarations of one symbol agree. -/
  all : (∀ request ∈ set.requests, ∃ d, HasDeclaration ws set request d ∧ Keeps resolution d) ↔
    Consistent ws set

/-- A symbol has the GUID of the first keyword that resolves to it. This is the GUID of every
keyword's own declaration exactly if the declarations of one symbol agree on it. -/
theorem guids_of_first_keywords (resolved : set.resolve ws = .ok resolution) :
    GuidMeaning ws set resolution where
  globals := fun _ => mem_toList_iff resolved
  defined := by
    intro request listed
    obtain ⟨d, declared, g, defined, symbol⟩ := exists_global resolved listed
    refine ⟨d, ?_, g, defined, symbol, ?_⟩
    · intro e
      constructor
      · intro other
        exact other.unique declared
      · rintro rfl
        exact declared
    · intro other defined' symbol'
      exact eq_of_symbol_eq resolved defined' defined (symbol'.trans symbol.symm)
  kept := fun _ listed _ declared => keeps_iff resolved listed declared
  all := forall_keeps_iff resolved

/-- Two keywords of a package that share a symbol, with a GUID for each. -/
def sharedSymbol : CapabilitySet where
  protocols := ["Bus"]
  ppis := ["BusPpi"]
  packages := [⟨⟨Vector.replicate 16 8⟩, none⟩]

def sharingWorkspace : Workspace := .addPackage .empty sharingPackage

/-- What the set is resolved to: the keyword of the second kind adds nothing. -/
def sharedResolution : Resolution where
  protocols := [⟨"Bus", "gBus", ⟨Vector.replicate 16 1⟩⟩]

def busPpi : Declaration := ⟨"gBus", ⟨Vector.replicate 16 2⟩⟩

theorem sharedSymbol_resolved :
    sharedSymbol.resolve sharingWorkspace = .ok sharedResolution := by
  decide +kernel

theorem hasDeclaration_busPpi :
    HasDeclaration sharingWorkspace sharedSymbol (.ppi, "BusPpi") busPpi := by
  refine ⟨[], ⟨⟨Vector.replicate 16 8⟩, none⟩, [], rfl, by simp, sharingPackage, ?_, ?_⟩
  · decide +kernel
  · decide +kernel

theorem not_keeps_busPpi : ¬ Keeps sharedResolution busPpi := by
  rintro ⟨g, defined, _, guid⟩
  obtain rfl := List.mem_singleton.1 defined
  exact absurd guid (by decide)

/-- The set is resolved although its declarations of one symbol do not agree. -/
theorem sharedSymbol_not_consistent :
    sharedSymbol.resolve sharingWorkspace = .ok sharedResolution ∧
      GuidMeaning sharingWorkspace sharedSymbol sharedResolution ∧
      ¬ Consistent sharingWorkspace sharedSymbol := by
  have meaning := guids_of_first_keywords sharedSymbol_resolved
  refine ⟨sharedSymbol_resolved, meaning, ?_⟩
  intro consistent
  obtain ⟨d, declared, kept⟩ := meaning.all.2 consistent (.ppi, "BusPpi") (by decide)
  obtain rfl := declared.unique hasDeclaration_busPpi
  exact not_keeps_busPpi kept

/-- Both keywords resolve, and the GUID of the second one is nowhere in the result: its symbol has
the GUID of the first one. -/
theorem busPpi_guid_replaced :
    sharedSymbol.resolve sharingWorkspace = .ok sharedResolution ∧
      (.ppi, "BusPpi") ∈ sharedSymbol.requests ∧
      HasDeclaration sharingWorkspace sharedSymbol (.ppi, "BusPpi") busPpi ∧
      (∀ g ∈ sharedResolution.toList, g.guid ≠ busPpi.guid) ∧
      ¬ Keeps sharedResolution busPpi := by
  refine ⟨sharedSymbol_resolved, by decide, hasDeclaration_busPpi, ?_, not_keeps_busPpi⟩
  intro g defined
  obtain rfl := List.mem_singleton.1 defined
  decide

end CapabilitySet

end FirmwareGlue
