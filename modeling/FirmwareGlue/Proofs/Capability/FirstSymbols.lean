import FirmwareGlue.Proofs.Capability.Resolution
import FirmwareGlue.Proofs.FirstPlaces

/-!
# Each symbol once

Keywords of the same and of different kinds may resolve to one symbol, which can be defined only
once: it is defined for the keyword that comes first. So the globals of a set are what its keywords
resolve to, without the entries whose symbol an earlier one has. They are kept by kind, but since
the keywords are resolved kind after kind in the order of emission, the globals are emitted in the
order in which their keywords were resolved.
-/

namespace FirmwareGlue

def CapabilityKind.place : CapabilityKind → Nat
  | protocol => 0
  | ppi => 1
  | guid => 2

namespace Resolution

variable {entries : List (CapabilityKind × ResolvedGuid)} {entry : CapabilityKind × ResolvedGuid}

/-- The symbols of what some keywords resolve to. -/
def symbolsOf (entries : List (CapabilityKind × ResolvedGuid)) : List String :=
  entries.map fun entry => entry.2.symbol

/-- The entries whose symbol has not occurred before. -/
def firstOfSymbol (entries : List (CapabilityKind × ResolvedGuid)) :
    List (CapabilityKind × ResolvedGuid) :=
  (entries.zipIdx.filter fun placed =>
    placed.1.2.symbol ∉ symbolsOf (entries.take placed.2)).map Prod.fst

theorem firstOfSymbol_eq (entries : List (CapabilityKind × ResolvedGuid)) :
    firstOfSymbol entries = FirstSeen.firstsBy (fun entry => entry.2.symbol) entries := rfl

/-- What comes behind has no part in which of the earlier entries are kept. -/
theorem firstOfSymbol_concat (entries : List (CapabilityKind × ResolvedGuid))
    (entry : CapabilityKind × ResolvedGuid) :
    firstOfSymbol (entries ++ [entry]) =
      firstOfSymbol entries ++ if entry.2.symbol ∈ symbolsOf entries then [] else [entry] := by
  simp only [firstOfSymbol_eq]
  exact FirstSeen.firstsBy_concat _ entries entry

theorem firstOfSymbol_sublist (entries : List (CapabilityKind × ResolvedGuid)) :
    (firstOfSymbol entries).Sublist entries :=
  FirstSeen.firstsBy_sublist _ entries

/-- An entry is kept at the place where its symbol occurs first. -/
theorem mem_firstOfSymbol_iff : entry ∈ firstOfSymbol entries ↔
    ∃ before after, entries = before ++ entry :: after ∧
      entry.2.symbol ∉ symbolsOf before := by
  rw [firstOfSymbol_eq]
  exact FirstSeen.mem_firstsBy_iff

/-- No symbol is lost. -/
theorem mem_symbolsOf_firstOfSymbol {symbol : String} :
    symbol ∈ symbolsOf (firstOfSymbol entries) ↔ symbol ∈ symbolsOf entries := by
  rw [firstOfSymbol_eq]
  exact FirstSeen.mem_map_firstsBy

/-- No symbol is kept twice. -/
theorem nodup_symbolsOf_firstOfSymbol (entries : List (CapabilityKind × ResolvedGuid)) :
    (symbolsOf (firstOfSymbol entries)).Nodup :=
  FirstSeen.nodup_map_firstsBy _ entries

def collect (entries : List (CapabilityKind × ResolvedGuid)) : Resolution :=
  entries.foldl (fun r entry => r.add entry.1 entry.2) {}

theorem collect_concat (entries : List (CapabilityKind × ResolvedGuid))
    (entry : CapabilityKind × ResolvedGuid) :
    collect (entries ++ [entry]) = (collect entries).add entry.1 entry.2 := by
  rw [collect, List.foldl_append]
  rfl

theorem ofKind_push (r : Resolution) (kind other : CapabilityKind) (g : ResolvedGuid) :
    (r.push kind g).ofKind other = r.ofKind other ++ if kind = other then [g] else [] := by
  cases kind <;> cases other <;> simp [push, ofKind]

theorem mem_symbols_iff {r : Resolution} {symbol : String} :
    symbol ∈ r.symbols ↔ ∃ kind, symbol ∈ (r.ofKind kind).map ResolvedGuid.symbol := by
  simp only [symbols, toList, CapabilityKind.emissionOrder, List.flatMap_cons, List.flatMap_nil,
    List.append_nil, List.map_append, List.mem_append]
  constructor
  · rintro (member | member | member)
    · exact ⟨_, member⟩
    · exact ⟨_, member⟩
    · exact ⟨_, member⟩
  · rintro ⟨kind, member⟩
    cases kind with
    | protocol => exact .inl member
    | ppi => exact .inr (.inl member)
    | guid => exact .inr (.inr member)

/-- The globals of a kind are those of its entries that are kept. -/
theorem ofKind_collect (entries : List (CapabilityKind × ResolvedGuid)) (kind : CapabilityKind) :
    (collect entries).ofKind kind =
      ((firstOfSymbol entries).filter fun entry => entry.1 = kind).map Prod.snd := by
  -- From the end, since an entry is judged by those before it, whatever their kinds.
  induction entries using List.reverseRecOn generalizing kind with
  | nil => cases kind <;> rfl
  | append_singleton entries entry ih =>
      have known : entry.2.symbol ∈ (collect entries).symbols ↔
          entry.2.symbol ∈ symbolsOf entries := by
        rw [mem_symbols_iff, ← mem_symbolsOf_firstOfSymbol]
        simp only [ih, symbolsOf, List.map_map, List.mem_map, List.mem_filter, decide_eq_true_eq,
          Function.comp_apply]
        constructor
        · rintro ⟨kind, e, ⟨member, _⟩, same⟩
          exact ⟨e, member, same⟩
        · rintro ⟨e, member, same⟩
          exact ⟨e.1, e, ⟨member, rfl⟩, same⟩
      rw [collect_concat, firstOfSymbol_concat, add]
      by_cases repeated : entry.2.symbol ∈ symbolsOf entries
      · rw [if_pos (known.2 repeated), if_pos repeated, List.append_nil, ih]
      · rw [if_neg (known.not.2 repeated), if_neg repeated, ofKind_push, ih, List.filter_append,
          List.map_append]
        congr 1
        by_cases same : entry.1 = kind
        · simp [same]
        · simp [same]

/-- Entries that come kind after kind are cut into their kinds. -/
theorem flatMap_filter_of_ordered
    (ordered : entries.Pairwise fun a b => a.1.place ≤ b.1.place) :
    (CapabilityKind.emissionOrder.flatMap fun kind => entries.filter fun entry => entry.1 = kind) =
      entries := by
  simp only [CapabilityKind.emissionOrder, List.flatMap_cons, List.flatMap_nil, List.append_nil]
  induction entries with
  | nil => rfl
  | cons entry rest ih =>
      obtain ⟨behind, ordered⟩ := List.pairwise_cons.1 ordered
      -- Of the kinds before that of the first entry, there is none in the rest.
      have none (kind : CapabilityKind) (before : kind.place < entry.1.place) :
          rest.filter (fun other => other.1 = kind) = [] := by
        rw [List.filter_eq_nil_iff]
        intro other member
        rw [decide_eq_true_iff]
        rintro rfl
        exact absurd (behind other member) (Nat.not_le.2 before)
      have tail := ih ordered
      obtain ⟨kind, g⟩ := entry
      cases kind with
      | protocol => simpa using tail
      | ppi =>
          have noProtocol := none .protocol Nat.zero_lt_one
          rw [noProtocol] at tail
          simpa [noProtocol] using tail
      | guid =>
          have noProtocol := none .protocol Nat.two_pos
          have noPpi := none .ppi Nat.one_lt_two
          rw [noProtocol, noPpi] at tail
          simpa [noProtocol, noPpi] using tail

/-- Where the entries come kind after kind, the globals are emitted in the order of the entries. -/
theorem toList_collect (ordered : entries.Pairwise fun a b => a.1.place ≤ b.1.place) :
    (collect entries).toList = (firstOfSymbol entries).map Prod.snd := by
  have kept := ordered.sublist (firstOfSymbol_sublist entries)
  calc (collect entries).toList
      = CapabilityKind.emissionOrder.flatMap fun kind =>
          ((firstOfSymbol entries).filter fun entry => entry.1 = kind).map Prod.snd := by
        rw [toList, funext (ofKind_collect entries)]
    _ = (firstOfSymbol entries).map Prod.snd := by
        rw [← List.map_flatMap, flatMap_filter_of_ordered kept]

end Resolution

end FirmwareGlue
