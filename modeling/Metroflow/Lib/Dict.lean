import Metroflow.Lib.Common

namespace Metroflow.Lib

/-- A mapping with its items in the order of their first insertion. -/
abbrev Dict (κ α : Type) := List (κ × α)

namespace Dict

section Access

variable {κ α : Type} [DecidableEq κ]

def get (d : Dict κ α) (key : κ) : Option α := List.lookup key d

def set : Dict κ α → κ → α → Dict κ α
  | [], key, value => [(key, value)]
  | item :: rest, key, value =>
    if item.1 = key then (key, value) :: rest else item :: set rest key value

/-- Sets the given items one after the other. -/
def update (d : Dict κ α) (items : List (κ × α)) : Dict κ α :=
  items.foldl (fun d item => d.set item.1 item.2) d

variable {d : Dict κ α} {key other : κ} {value : α}

@[simp]
theorem get_nil : get ([] : Dict κ α) key = none := rfl

@[simp]
theorem get_cons {item : κ × α} :
    get (item :: d) key = if key = item.1 then some item.2 else get d key := by
  unfold get
  rw [List.lookup_cons]
  by_cases here : key = item.1
  · rw [if_pos here, beq_iff_eq.mpr here]
  · rw [if_neg here, beq_eq_false_iff_ne.mpr here]

@[simp]
theorem get_set_self : (d.set key value).get key = some value := by
  induction d with
  | nil => simp [set]
  | cons item rest ih =>
    unfold set
    split
    · simp
    · rename_i elsewhere
      rw [get_cons, if_neg (Ne.symm elsewhere), ih]

theorem get_set_of_ne (apart : other ≠ key) : (d.set key value).get other = d.get other := by
  induction d with
  | nil => simp [set, apart]
  | cons item rest ih =>
    unfold set
    split
    · rename_i here
      rw [get_cons, get_cons, if_neg apart, here, if_neg apart]
    · rw [get_cons, get_cons, ih]

@[simp]
theorem get_set : (d.set key value).get other = if other = key then some value else d.get other := by
  split
  · rename_i same
    rw [same, get_set_self]
  · rename_i apart
    exact get_set_of_ne apart

theorem set_of_get_none (new : d.get key = none) : d.set key value = d ++ [(key, value)] := by
  induction d with
  | nil => rfl
  | cons item rest ih =>
    rw [get_cons] at new
    split at new
    · cases new
    · rename_i apart
      rw [set, if_neg (Ne.symm apart), ih new, List.cons_append]

theorem update_fresh {items : List (κ × α)} (distinct : (items.map Prod.fst).Nodup)
    (fresh : ∀ item ∈ items, d.get item.1 = none) : d.update items = d ++ items := by
  induction items generalizing d with
  | nil => exact (List.append_nil d).symm
  | cons item items ih =>
    obtain ⟨apart, distinct⟩ := List.nodup_cons.mp distinct
    obtain ⟨new, fresh⟩ := List.forall_mem_cons.mp fresh
    have here : d.set item.1 item.2 = d ++ [item] := set_of_get_none new
    change (d.set item.1 item.2).update items = _
    rw [ih distinct, here, List.append_assoc, List.singleton_append]
    intro other listed
    rw [get_set_of_ne, fresh other listed]
    rintro same
    exact apart (same ▸ List.mem_map_of_mem listed)

theorem get_eq_some_iff (distinct : (d.map Prod.fst).Nodup) :
    d.get key = some value ↔ (key, value) ∈ d := by
  induction d with
  | nil => simp
  | cons item rest ih =>
    obtain ⟨apart, distinct⟩ := List.nodup_cons.mp distinct
    rw [get_cons, List.mem_cons, Prod.ext_iff]
    split
    · rename_i here
      subst here
      refine ⟨fun same => .inl ⟨rfl, (Option.some.inj same).symm⟩, ?_⟩
      rintro (⟨-, rfl⟩ | later)
      · rfl
      · exact absurd (List.mem_map_of_mem later) apart
    · rename_i elsewhere
      rw [ih distinct]
      exact ⟨.inr, fun h => h.resolve_left fun same => elsewhere same.1⟩

theorem mem_keys_set :
    other ∈ (d.set key value).map Prod.fst ↔ other = key ∨ other ∈ d.map Prod.fst := by
  induction d with
  | nil => simp [set]
  | cons item rest ih =>
    unfold set
    split
    · rename_i here
      simp [here]
    · rw [List.map_cons, List.mem_cons, ih, List.map_cons, List.mem_cons]
      exact or_left_comm

theorem mem_keys_update {items : List (κ × α)} :
    key ∈ (d.update items).map Prod.fst ↔ key ∈ d.map Prod.fst ∨ key ∈ items.map Prod.fst := by
  induction items generalizing d with
  | nil => simp [update]
  | cons item items ih =>
    change key ∈ ((d.set item.1 item.2).update items).map Prod.fst ↔ _
    rw [ih, mem_keys_set, List.map_cons, List.mem_cons]
    tauto

theorem keys_set_of_mem (known : key ∈ d.map Prod.fst) :
    (d.set key value).map Prod.fst = d.map Prod.fst := by
  induction d with
  | nil => cases known
  | cons item rest ih =>
    unfold set
    split
    · rename_i here
      rw [List.map_cons, List.map_cons, here]
    · rename_i elsewhere
      rw [List.map_cons, List.map_cons,
        ih ((List.mem_cons.mp known).resolve_left (Ne.symm elsewhere))]

theorem nodup_keys_set (distinct : (d.map Prod.fst).Nodup) :
    ((d.set key value).map Prod.fst).Nodup := by
  induction d with
  | nil => simp [set]
  | cons item rest ih =>
    obtain ⟨apart, distinct⟩ := List.nodup_cons.mp distinct
    unfold set
    split
    · rename_i here
      rw [List.map_cons, List.nodup_cons]
      exact ⟨here ▸ apart, distinct⟩
    · rename_i elsewhere
      rw [List.map_cons, List.nodup_cons, mem_keys_set]
      exact ⟨not_or.mpr ⟨elsewhere, apart⟩, ih distinct⟩

theorem nodup_keys_update {items : List (κ × α)} (distinct : (d.map Prod.fst).Nodup) :
    ((d.update items).map Prod.fst).Nodup := by
  induction items generalizing d with
  | nil => exact distinct
  | cons item items ih => exact ih (nodup_keys_set distinct)

theorem update_nil (distinct : (d.map Prod.fst).Nodup) : Dict.update [] d = d :=
  update_fresh distinct fun _ _ => rfl

theorem mem_keys_iff : key ∈ d.map Prod.fst ↔ ∃ value, d.get key = some value := by
  induction d with
  | nil => simp
  | cons item rest ih =>
    rw [List.map_cons, List.mem_cons, get_cons, ih]
    split
    · rename_i here
      simp [here]
    · rename_i elsewhere
      simp [elsewhere]

theorem get_filter_ne : Dict.get (d.filter fun item => item.1 ≠ key) other =
    if other = key then none else d.get other := by
  induction d with
  | nil => simp
  | cons item rest ih =>
    by_cases here : item.1 = key
    · rw [List.filter_cons_of_neg (by simpa using here), ih, get_cons]
      by_cases same : other = key
      · rw [if_pos same, if_pos same]
      · rw [if_neg same, if_neg same, if_neg (here ▸ same)]
    · rw [List.filter_cons_of_pos (by simpa using here), get_cons, get_cons, ih]
      by_cases same : other = key
      · rw [if_pos same, if_pos same, if_neg (same ▸ Ne.symm here)]
      · rw [if_neg same, if_neg same]

theorem get_of_perm {d' : Dict κ α} (h : d.Perm d') (distinct : (d.map Prod.fst).Nodup) :
    d.get key = d'.get key := by
  refine Option.ext fun value => ?_
  rw [get_eq_some_iff distinct, get_eq_some_iff ((h.map Prod.fst).nodup_iff.mp distinct),
    h.mem_iff]

theorem get_map_values {β : Type} {f : α → β} :
    Dict.get (d.map fun item => (item.1, f item.2)) key = (d.get key).map f := by
  induction d with
  | nil => rfl
  | cons item rest ih =>
    rw [List.map_cons, get_cons, get_cons, ih]
    split <;> rfl

end Access

section Groups

variable {κ α : Type} [DecidableEq κ]

def appendAt (d : Dict κ (List α)) (key : κ) (value : α) : Dict κ (List α) :=
  d.set key ((d.get key).getD [] ++ [value])

def valuesAt (entries : List (κ × α)) (key : κ) : List α :=
  (entries.filter fun entry => entry.1 = key).map Prod.snd

/-- The mapping lists the values of the entries under their keys. -/
structure Groups (d : Dict κ (List α)) (entries : List (κ × α)) : Prop where
  distinct : (d.map Prod.fst).Nodup
  listed : ∀ item ∈ d, item.2 = valuesAt entries item.1
  keys : ∀ key, key ∈ d.map Prod.fst ↔ key ∈ entries.map Prod.fst

variable {d : Dict κ (List α)} {entries : List (κ × α)} {key : κ} {value : α}

theorem mem_values_at : value ∈ valuesAt entries key ↔ (key, value) ∈ entries := by
  simp [valuesAt]

theorem Groups.nil : Groups ([] : Dict κ (List α)) [] where
  distinct := List.nodup_nil
  listed _ none := by cases none
  keys _ := Iff.rfl

theorem Groups.get (h : Groups d entries) : (d.get key).getD [] = valuesAt entries key := by
  cases found : d.get key with
  | some values => exact h.listed _ ((get_eq_some_iff h.distinct).mp found)
  | none =>
    have absent : key ∉ entries.map Prod.fst := by
      rw [← h.keys, mem_keys_iff]
      rintro ⟨values, known⟩
      rw [known] at found
      cases found
    symm
    refine List.map_eq_nil_iff.mpr (List.filter_eq_nil_iff.mpr fun entry listed same => absent ?_)
    exact of_decide_eq_true same ▸ List.mem_map_of_mem listed

theorem Groups.append_at (h : Groups d entries) :
    Groups (d.appendAt key value) (entries ++ [(key, value)]) where
  distinct := nodup_keys_set h.distinct
  listed := by
    rintro ⟨other, values⟩ listed
    unfold Dict.appendAt at listed
    rw [← get_eq_some_iff (nodup_keys_set h.distinct), get_set] at listed
    have split : valuesAt (entries ++ [(key, value)]) other =
        valuesAt entries other ++ if key = other then [value] else [] := by
      unfold valuesAt
      rw [List.filter_append, List.map_append]
      by_cases here : key = other <;> simp [here]
    rw [split]
    split at listed
    · rename_i here
      rw [here, if_pos rfl, ← h.get, Option.some.inj listed]
    · rename_i elsewhere
      rw [if_neg (Ne.symm elsewhere), List.append_nil, ← h.get, listed]
      rfl
  keys other := by
    rw [appendAt, mem_keys_set, h.keys, List.map_append, List.mem_append, List.map_singleton,
      List.mem_singleton, or_comm]

theorem append_at_flat : ((d.appendAt key value).flatMap Prod.snd).Perm
    (d.flatMap Prod.snd ++ [value]) := by
  unfold Dict.appendAt
  induction d with
  | nil => exact .refl _
  | cons item rest ih =>
    unfold Dict.set
    rw [get_cons]
    split
    · rename_i here
      rw [if_pos here.symm, Option.getD_some, List.flatMap_cons, List.flatMap_cons,
        List.append_assoc, List.append_assoc]
      exact List.perm_append_comm.append_left item.2
    · rename_i elsewhere
      rw [if_neg fun same => elsewhere same.symm, List.flatMap_cons, List.flatMap_cons,
        List.append_assoc]
      exact ih.append_left item.2

theorem Groups.ne_nil (h : Groups d entries) {item : κ × List α} (listed : item ∈ d) :
    item.2 ≠ [] := by
  obtain ⟨entry, known, same⟩ := List.mem_map.mp ((h.keys item.1).mp (List.mem_map_of_mem listed))
  have mem : entry.2 ∈ valuesAt entries item.1 := mem_values_at.mpr (same ▸ known)
  rw [← h.listed item listed] at mem
  exact List.ne_nil_of_mem mem

end Groups

section Numbers

variable {κ α : Type} [DecidableEq κ]

def setDefault (d : Dict κ α) (key : κ) (value : α) : Dict κ α :=
  if (d.get key).isSome then d else d.set key value

variable {d : Dict κ α} {key other : κ} {value found : α}

theorem get_set_default_self : (d.setDefault key value).get key = some ((d.get key).getD value) := by
  unfold setDefault
  cases known : d.get key with
  | some found => simp [known]
  | none => simp

theorem get_set_default (known : d.get other = some found) :
    (d.setDefault key value).get other = some found := by
  unfold setDefault
  split
  · exact known
  · rename_i new
    rw [get_set, if_neg, known]
    rintro rfl
    rw [known] at new
    exact new rfl

/-- The keys of a mapping are numbered in the order they came. -/
structure Numbered (d : Dict κ ℤ) : Prop where
  distinct : (d.map Prod.fst).Nodup
  numbers : d.map Prod.snd = (List.range d.length).map Int.ofNat

omit [DecidableEq κ] in
theorem Numbered.nil : Numbered ([] : Dict κ ℤ) := ⟨List.nodup_nil, rfl⟩

theorem Numbered.set_default {d : Dict κ ℤ} (h : Numbered d) :
    Numbered (d.setDefault key d.length) := by
  unfold setDefault
  split
  · exact h
  · rename_i new
    have absent : d.get key = none := Option.not_isSome_iff_eq_none.mp new
    refine ⟨nodup_keys_set h.distinct, ?_⟩
    rw [set_of_get_none absent, List.map_append, h.numbers, List.length_append, List.map_singleton,
      List.length_singleton, List.range_succ, List.map_append]
    rfl

theorem Numbered.bound {d : Dict κ ℤ} (h : Numbered d) {number : ℤ} (at_key : d.get key = some number) :
    0 ≤ number ∧ number < d.length := by
  have listed := (get_eq_some_iff h.distinct).mp at_key
  have mem : number ∈ d.map Prod.snd := List.mem_map_of_mem listed
  rw [h.numbers, List.mem_map] at mem
  obtain ⟨i, inside, rfl⟩ := mem
  exact ⟨Int.natCast_nonneg i, Int.ofNat_lt.mpr (List.mem_range.mp inside)⟩

theorem Numbered.injective {d : Dict κ ℤ} (h : Numbered d) {number : ℤ}
    (at_key : d.get key = some number) (at_other : d.get other = some number) : key = other := by
  have listed := (get_eq_some_iff h.distinct).mp at_key
  have listed' := (get_eq_some_iff h.distinct).mp at_other
  have unique : (d.map Prod.snd).Nodup := by
    rw [h.numbers]
    exact List.nodup_range.map fun _ _ same => Int.ofNat.inj same
  exact (Prod.mk.inj (List.inj_on_of_nodup_map unique listed listed' rfl)).1

end Numbers

section Alike

variable {κ α β : Type} (V : κ → α → β → Prop)

/-- Two mappings with the same keys in the same order, whose values an observer
takes for one another. -/
def Alike (d : Dict κ α) (d' : Dict κ β) : Prop :=
  List.Forall₂ (fun item item' => item.1 = item'.1 ∧ V item.1 item.2 item'.2) d d'

theorem Alike.nil : Alike V [] [] := List.Forall₂.nil

theorem Alike.cons {V : κ → α → β → Prop} {d : Dict κ α} {d' : Dict κ β} {key : κ} {a : α} {b : β}
    (seen : V key a b) (rest : Alike V d d') : Alike V ((key, a) :: d) ((key, b) :: d') :=
  List.Forall₂.cons ⟨rfl, seen⟩ rest

theorem Alike.refl {V : κ → α → α → Prop} (same : ∀ key a, V key a a) (d : Dict κ α) :
    Alike V d d :=
  List.forall₂_same.mpr fun item _ => ⟨rfl, same item.1 item.2⟩

theorem Alike.seen {V : κ → α → α → Prop} {d d' : Dict κ α} (h : Alike V d d') {see : κ → Bool}
    (faithful : ∀ key a b, see key = true → V key a b → a = b) :
    d.filter (fun item => see item.1) = d'.filter fun item => see item.1 := by
  induction h with
  | nil => rfl
  | @cons item item' _ _ first _ ih =>
    obtain ⟨keys, values⟩ := first
    rw [List.filter_cons, List.filter_cons, ← keys, ih]
    split
    · rename_i shown
      rw [Prod.ext keys (faithful _ _ _ shown values)]
    · rfl

variable {V} [DecidableEq κ] {d : Dict κ α} {d' : Dict κ β}

theorem Alike.get (h : Alike V d d') (key : κ) :
    d.get key = none ∧ d'.get key = none ∨
      ∃ a b, d.get key = some a ∧ d'.get key = some b ∧ V key a b := by
  induction h with
  | nil => exact .inl ⟨rfl, rfl⟩
  | cons first _ ih =>
    obtain ⟨keys, seen⟩ := first
    rw [get_cons, get_cons, ← keys]
    split
    · rename_i here
      exact .inr ⟨_, _, rfl, rfl, here ▸ seen⟩
    · exact ih

theorem Alike.set (h : Alike V d d') {key : κ} {a : α} {b : β} (seen : V key a b) :
    Alike V (d.set key a) (d'.set key b) := by
  induction h with
  | nil => exact .cons seen (.nil V)
  | cons first rest ih =>
    unfold Dict.set
    rw [← first.1]
    split
    · exact .cons seen rest
    · exact List.Forall₂.cons first ih

theorem Alike.update (h : Alike V d d') {items : List (κ × α)} {items' : List (κ × β)}
    (new : Alike V items items') : Alike V (d.update items) (d'.update items') := by
  unfold Dict.update
  induction new generalizing d d' with
  | nil => exact h
  | cons first _ ih =>
    obtain ⟨keys, seen⟩ := first
    rw [List.foldl_cons, List.foldl_cons, ← keys]
    exact ih (h.set seen)

end Alike

end Dict

end Metroflow.Lib
