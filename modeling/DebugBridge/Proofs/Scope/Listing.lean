import DebugBridge.Proofs.Json.Members
import DebugBridge.Scope.Listing

/-!
# What a listing of the globals shows

Two states of an interpreter may have the same globals apart from some names. What the listing shows of them is the
same exactly if none of those names has come in sight: `inspect_eq_iff`.
-/

namespace DebugBridge.Scope

variable {σ : Type} {scope : Scope σ} {apart : List String} {s t u : σ}

/-- Two states have the same globals apart from some names. -/
structure Agree (scope : Scope σ) (apart : List String) (s t : σ) : Prop where
  names : (scope.names t).filter (· ∉ apart) = (scope.names s).filter (· ∉ apart)
  value : ∀ name ∉ apart, scope.value name t = scope.value name s
  display : ∀ name ∉ apart, scope.display name t = scope.display name s
  displayType : ∀ name ∉ apart, scope.displayType name t = scope.displayType name s

/-- A global that is taken out is gone, whether or not its value can be converted, and no other is touched. -/
structure TakesOut (scope : Scope σ) : Prop where
  gone (name : String) (s : σ) : name ∉ scope.names (scope.take name s).2
  others (name : String) (s : σ) : scope.Agree [name] s (scope.take name s).2

namespace Agree

/-- Globals agree with themselves. -/
theorem refl (apart : List String) (s : σ) : scope.Agree apart s s :=
  ⟨rfl, fun _ _ => rfl, fun _ _ => rfl, fun _ _ => rfl⟩

/-- Globals that agree with the same ones agree. -/
theorem trans (first : scope.Agree apart s t) (second : scope.Agree apart t u) : scope.Agree apart s u where
  names := second.names.trans first.names
  value name other := (second.value name other).trans (first.value name other)
  display name other := (second.display name other).trans (first.display name other)
  displayType name other := (second.displayType name other).trans (first.displayType name other)

/-- Fewer names have to agree if more are set apart. -/
theorem mono {more : List String} (agree : scope.Agree apart s t) (inside : apart ⊆ more) : scope.Agree more s t where
  names := by
    have thinned (names : List String) :
        names.filter (· ∉ more) = (names.filter (· ∉ apart)).filter (· ∉ more) := by
      rw [List.filter_filter]
      refine List.filter_congr fun name _ => ?_
      have := @inside name
      grind
    rw [thinned, agree.names, ← thinned]
  value name other := agree.value name (mt (@inside name) other)
  display name other := agree.display name (mt (@inside name) other)
  displayType name other := agree.displayType name (mt (@inside name) other)

theorem mem_names_iff (agree : scope.Agree apart s t) {name : String} (other : name ∉ apart) :
    name ∈ scope.names t ↔ name ∈ scope.names s := by
  have same := congrArg (name ∈ ·) agree.names
  simpa [other] using same

/-- What agrees is listed alike. -/
theorem entry_eq (agree : scope.Agree apart s t) {name : String} (other : name ∉ apart) :
    scope.entry t name = scope.entry s name := by
  simp only [entry, listedType, listedValue, agree.value name other, agree.display name other,
    agree.displayType name other]

/-- The names on which two states may differ do not matter to a listing that shows none of them. -/
theorem entries_eq (agree : scope.Agree apart s t)
    (before : ∀ name ∈ apart, isVisible name = true → name ∉ scope.names s)
    (after : ∀ name ∈ apart, isVisible name = true → name ∉ scope.names t) :
    scope.entries t = scope.entries s := by
  have shown {x : σ} (unseen : ∀ name ∈ apart, isVisible name = true → name ∉ scope.names x) :
      (scope.names x).filter isVisible = ((scope.names x).filter (· ∉ apart)).filter isVisible := by
    rw [List.filter_filter]
    refine List.filter_congr fun name member => ?_
    have := unseen name
    grind
  rw [entries, entries, shown after, agree.names, ← shown before]
  refine List.map_congr_left fun name member => agree.entry_eq fun touched => ?_
  obtain ⟨present, visible⟩ := List.mem_filter.mp member
  exact before name touched visible present

end Agree

/-- An entry tells its name. -/
theorem get?_name_entry (s : σ) (name : String) : (scope.entry s name).get? "name" = some (.str name) := by
  simp [entry, Json.get?_ofMembers, List.lookup]

/-- A listing tells the names that it shows. -/
theorem shown_of_entries_eq (same : scope.entries t = scope.entries s) :
    (scope.names t).filter isVisible = (scope.names s).filter isVisible := by
  have names := congrArg (List.map fun e : Json => e.get? "name") same
  simp only [entries, List.map_map, Function.comp_def, get?_name_entry] at names
  exact (List.map_inj_right fun _ _ equal => by simpa using equal).mp names

/-- Two listings are the same exactly if their entries are. -/
theorem inspect_inj {q : Request} : scope.inspect q t = scope.inspect q s ↔ scope.entries t = scope.entries s := by
  constructor
  · intro same
    have body := congrArg (fun answer => answer.body.bind fun b => b.get? "variables") same
    simpa [inspect, Response.succeed, Json.get?_ofMembers, List.lookup] using body
  · intro same
    rw [inspect, inspect, same]

/-- Two listings, between which only some names were touched, of which none was shown before, are the same exactly if
none of those is shown after. -/
theorem inspect_eq_iff (agree : scope.Agree apart s t)
    (before : ∀ name ∈ apart, isVisible name = true → name ∉ scope.names s) (q : Request) :
    scope.inspect q t = scope.inspect q s ↔ ∀ name ∈ apart, isVisible name = true → name ∉ scope.names t := by
  rw [inspect_inj]
  constructor
  · intro same name touched visible present
    have shown : name ∈ (scope.names t).filter isVisible := List.mem_filter.mpr ⟨present, visible⟩
    rw [shown_of_entries_eq same] at shown
    exact before name touched visible (List.mem_filter.mp shown).1
  · exact agree.entries_eq before

end DebugBridge.Scope
