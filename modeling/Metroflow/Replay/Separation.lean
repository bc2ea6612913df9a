import Metroflow.Replay.Digest

namespace Metroflow.Replay

open Metroflow.Lib

variable {D : Type} {sha : Bytes → Bytes} {np : DTypes D} {S : Set Bytes}

/-- What numpy documents: `newbyteorder` is done at once, a little-endian dtype can be made again
from its descriptor, and byte order is where the elements' bytes differ. -/
structure DTypes.Documented (np : DTypes D) : Prop where
  newbyteorder_twice : ∀ d, np.newbyteorder (np.newbyteorder d) = np.newbyteorder d
  descr_replicates : ∀ d d', np.str (np.newbyteorder d) = np.str (np.newbyteorder d') →
    np.descr (np.newbyteorder d) = np.descr (np.newbyteorder d') →
    np.itemsize (np.newbyteorder d) = np.itemsize (np.newbyteorder d') →
    np.alignment (np.newbyteorder d) = np.alignment (np.newbyteorder d') →
    np.isalignedstruct (np.newbyteorder d) = np.isalignedstruct (np.newbyteorder d') →
    np.newbyteorder d = np.newbyteorder d'
  elements_swapped : ∀ d data, np.swaps d = true → np.elements d data = np.byteswap d data
  elements_stored : ∀ d data, np.newbyteorder d = d → np.elements d data = data

/-- An array that is not swapped as a whole is stored in little-endian order. -/
def OrderedPart (np : DTypes D) : RuntimeValue D → Prop
  | .array a _ => np.swaps a.dtype = true ∨ np.newbyteorder a.dtype = a.dtype
  | _ => True

instance [DecidableEq D] (part : RuntimeValue D) : Decidable (OrderedPart np part) :=
  match part with
  | .array a _ =>
    inferInstanceAs (Decidable (np.swaps a.dtype = true ∨ np.newbyteorder a.dtype = a.dtype))
  | .leaf _ | .enum _ _ _ | .objectArray _ _ _ | .dataclass _ _ | .mapping _ | .sequence _ _
  | .set _ _ => isTrue trivial

/-- No structured array inside a value has a field in big-endian order. -/
def LittleFields (np : DTypes D) (v : RuntimeValue D) : Prop := ∀ part ∈ parts v, OrderedPart np part

instance [DecidableEq D] (v : RuntimeValue D) : Decidable (LittleFields np v) :=
  inferInstanceAs (Decidable (∀ part ∈ parts v, OrderedPart np part))

/-- The byte strings that are hashed for one value. -/
def partInputs (sha : Bytes → Bytes) (np : DTypes D) (part : RuntimeValue D) : List Bytes :=
  hashInput sha np part ::
    match part with
    | .mapping i => (keptItems i).map (itemInput sha np)
    | _ => []

/-- The byte strings that are hashed for a value and what it holds. -/
def hashed (sha : Bytes → Bytes) (np : DTypes D) (v : RuntimeValue D) : List Bytes :=
  (parts v).flatMap (partInputs sha np)

/-- A value whose lengths fit and whose hashed byte strings lie in a set. -/
structure Ready (sha : Bytes → Bytes) (np : DTypes D) (S : Set Bytes) (part : RuntimeValue D) :
    Prop where
  inputs : ∀ b ∈ partInputs sha np part, b ∈ S
  fits : ∀ length ∈ lengths np part, length < 256 ^ 8
  ordered : OrderedPart np part

def RuntimeValue.tag : RuntimeValue D → Tag
  | .leaf l => l.tag
  | .enum _ _ _ => .enum
  | .array _ _ => .ndarray
  | .objectArray _ _ _ => .ndarray
  | .dataclass _ _ => .dataclass
  | .mapping _ => .mapping
  | .sequence isTuple _ => if isTuple then .tuple else .list
  | .set isFrozen _ => if isFrozen then .frozenset else .set

/-- Which constructor a tag belongs to. -/
def Tag.kind : Tag → ℕ
  | .enum => 1
  | .ndarray => 2
  | .dataclass => 3
  | .mapping => 4
  | .tuple => 5
  | .list => 5
  | .frozenset => 6
  | .set => 6
  | _ => 0

def RuntimeValue.kind : RuntimeValue D → ℕ
  | .leaf _ => 0
  | .enum _ _ _ => 1
  | .array _ _ => 2
  | .objectArray _ _ _ => 2
  | .dataclass _ _ => 3
  | .mapping _ => 4
  | .sequence _ _ => 5
  | .set _ _ => 6

theorem tag_kind (v : RuntimeValue D) : v.tag.kind = v.kind := by
  cases v with
  | leaf l =>
    cases l with
    | bool b => cases b <;> rfl
    | _ => rfl
  | sequence isTuple l => cases isTuple <;> rfl
  | set isFrozen l => cases isFrozen <;> rfl
  | _ => rfl

theorem exists_body (sha : Bytes → Bytes) (np : DTypes D) (v : RuntimeValue D) :
    ∃ body, hashInput sha np v = utf8 v.tag.name ++ body := by
  cases v with
  | sequence isTuple l => cases isTuple <;> exact ⟨_, by unfold hashInput; rfl⟩
  | set isFrozen l => cases isFrozen <;> exact ⟨_, by unfold hashInput; rfl⟩
  | _ => exact ⟨_, by unfold hashInput; rfl⟩

theorem tags_eq {v w : RuntimeValue D} (h : hashInput sha np v = hashInput sha np w) :
    v.tag = w.tag := by
  obtain ⟨body, v_eq⟩ := exists_body sha np v
  obtain ⟨body', w_eq⟩ := exists_body sha np w
  rw [v_eq, w_eq] at h
  exact (tag_append_inj h).1

theorem kinds_eq {v w : RuntimeValue D} (h : hashInput sha np v = hashInput sha np w) :
    v.kind = w.kind := by
  rw [← tag_kind, ← tag_kind, tags_eq h]

theorem text_append_inj {s t : String} {x y : Bytes} (s_fits : (utf8 s).length < 256 ^ 8)
    (t_fits : (utf8 t).length < 256 ^ 8) (h : text s ++ x = text t ++ y) : s = t ∧ x = y := by
  obtain ⟨same, rest⟩ := sized_append_inj s_fits t_fits h
  exact ⟨utf8_inj same, rest⟩

theorem chars_append_inj {l l' : List Char} {x y : Bytes}
    (l_fits : (utf8 (String.ofList l)).length < 256 ^ 8)
    (l_fits' : (utf8 (String.ofList l')).length < 256 ^ 8) (h : chars l ++ x = chars l' ++ y) :
    l = l' ∧ x = y := by
  obtain ⟨same, rest⟩ := text_append_inj l_fits l_fits' h
  exact ⟨String.ofList_inj.mp same, rest⟩

theorem leaf_inj {l l' : Leaf} (fits : ∀ length ∈ l.lengths, length < 256 ^ 8)
    (fits' : ∀ length ∈ l'.lengths, length < 256 ^ 8) (tags : l.tag = l'.tag)
    (h : l.body = l'.body) : l.Same l' := by
  have alone : ∀ {s t : String}, (utf8 s).length < 256 ^ 8 → (utf8 t).length < 256 ^ 8 →
      text s = text t → s = t := by
    intro s t s_fits t_fits same
    refine (text_append_inj (x := []) (y := []) s_fits t_fits ?_).1
    rw [same]
  cases l with
  | none => cases l' <;> first | trivial | cases tags | (rename_i b; cases b <;> cases tags)
  | bool b =>
    cases l' with
    | bool b' =>
      cases b <;> cases b' <;> first | rfl | cases tags
    | _ => cases b <;> cases tags
  | int i =>
    cases l' with
    | int i' =>
      exact int_chars_inj (String.ofList_inj.mp (alone (fits _ List.mem_cons_self)
        (fits' _ List.mem_cons_self) h))
    | bool b => cases b <;> cases tags
    | _ => cases tags
  | float n x =>
    cases l' with
    | float n' x' =>
      exact PyFloat.hex_inj.mp (String.ofList_inj.mp (alone (fits _ List.mem_cons_self)
        (fits' _ List.mem_cons_self) h))
    | bool b => cases b <;> cases tags
    | _ => cases tags
  | str n s =>
    cases l' with
    | str n' s' => exact alone (fits _ List.mem_cons_self) (fits' _ List.mem_cons_self) h
    | bool b => cases b <;> cases tags
    | _ => cases tags
  | bytes n b =>
    cases l' with
    | bytes n' b' =>
      refine (sized_append_inj (x := []) (y := []) (fits _ List.mem_cons_self)
        (fits' _ List.mem_cons_self) ?_).1
      rw [List.append_nil, List.append_nil]
      exact h
    | bool b => cases b <;> cases tags
    | _ => cases tags

theorem normalized_dtype_eq (numpy : np.Documented) (d : D) :
    np.normalizedDtype d = np.newbyteorder d := by
  unfold DTypes.normalizedDtype
  split
  · exact numpy.newbyteorder_twice d
  · rfl

theorem dtype_append_inj (numpy : np.Documented) {a a' : ArrayBuffer D} {m m' : _}
    {x y : Bytes} (fits : ∀ length ∈ lengths np (.array a m), length < 256 ^ 8)
    (fits' : ∀ length ∈ lengths np (.array a' m'), length < 256 ^ 8)
    (h : np.dtypeBytes (np.normalizedDtype a.dtype) ++ x =
      np.dtypeBytes (np.normalizedDtype a'.dtype) ++ y) :
    np.newbyteorder a.dtype = np.newbyteorder a'.dtype ∧ x = y := by
  simp only [lengths, List.forall_mem_cons, normalized_dtype_eq numpy] at fits fits'
  obtain ⟨-, str, descr, itemsize, alignment, -⟩ := fits
  obtain ⟨-, str', descr', itemsize', alignment', -⟩ := fits'
  simp only [DTypes.dtypeBytes, List.append_assoc, normalized_dtype_eq numpy] at h
  obtain ⟨same_str, h⟩ := text_append_inj str str' h
  obtain ⟨same_descr, h⟩ := text_append_inj descr descr' h
  obtain ⟨same_itemsize, h⟩ := chars_append_inj itemsize itemsize' h
  obtain ⟨same_alignment, h⟩ := chars_append_inj alignment alignment' h
  have widths : ∀ b : Bool, (utf8 (if b = true then "aligned1" else "aligned0")).length = 8 := by
    decide
  obtain ⟨same_aligned, h⟩ := List.append_inj h ((widths _).trans (widths _).symm)
  have flags : ∀ b b' : Bool, utf8 (if b = true then "aligned1" else "aligned0") =
      utf8 (if b' = true then "aligned1" else "aligned0") → b = b' := by
    decide
  exact ⟨numpy.descr_replicates _ _ same_str same_descr (digits_inj same_itemsize)
    (digits_inj same_alignment) (flags _ _ same_aligned), h⟩

theorem normalized_data_eq (numpy : np.Documented) {a : ArrayBuffer D} {m : _}
    (ordered : OrderedPart np (.array a m)) :
    a.normalizedData np = np.elements a.dtype a.data := by
  unfold ArrayBuffer.normalizedData
  split
  · exact (numpy.elements_swapped a.dtype a.data ‹_›).symm
  · rename_i whole
    have stored := ordered.resolve_left whole
    exact (numpy.elements_stored a.dtype a.data stored).symm

theorem leaf_of_same : ∀ {l l' : Leaf}, l.Same l' → l.tag = l'.tag ∧ l.body = l'.body
  | .none, .none, _ => ⟨rfl, rfl⟩
  | .bool _, .bool _, same => by
    obtain rfl := same
    exact ⟨rfl, rfl⟩
  | .int _, .int _, same => by
    obtain rfl := same
    exact ⟨rfl, rfl⟩
  | .float _ x, .float _ y, same => ⟨rfl, congrArg chars (PyFloat.hex_inj.mpr same)⟩
  | .str _ _, .str _ _, same => ⟨rfl, congrArg text same⟩
  | .bytes _ _, .bytes _ _, same => ⟨rfl, congrArg sized same⟩

theorem sorted_items_eq {i i' p : List (RuntimeValue D × RuntimeValue D)}
    (order : (keptItems i').Perm p)
    (matched : List.Forall₂ (fun a b => itemInput sha np a = itemInput sha np b) (keptItems i) p) :
    sortedDigests (itemDigests sha np i) = sortedDigests (itemDigests sha np i') := by
  rw [item_digests_eq, item_digests_eq]
  exact sorted_digests_of_perm (map_perm_of_matching order
    (matched.imp fun a b same => congrArg sha same))

/-- A value is the same as whatever is digested like it. -/
def Told (sha : Bytes → Bytes) (np : DTypes D) (S : Set Bytes) (v : RuntimeValue D) : Prop :=
  ∀ w, (∀ part ∈ parts v, Ready sha np S part) → (∀ part ∈ parts w, Ready sha np S part) →
    sha (hashInput sha np v) = sha (hashInput sha np w) → Same np v w

theorem items_same {i i' p : List (RuntimeValue D × RuntimeValue D)}
    (told : ∀ item ∈ keptItems i, Told sha np S item.1 ∧ Told sha np S item.2)
    (ready : ∀ part ∈ itemParts i, Ready sha np S part)
    (ready' : ∀ part ∈ itemParts i', Ready sha np S part) (order : (keptItems i').Perm p)
    (matched : List.Forall₂ (fun a b => sha (hashInput sha np a.1) = sha (hashInput sha np b.1) ∧
      sha (hashInput sha np a.2) = sha (hashInput sha np b.2)) (keptItems i) p) :
    List.Forall₂ (SameItem np) (keptItems i) p := by
  refine matching_imp matched fun a a_mem b b_mem same => ?_
  have a_ready := fun part found => ready part (item_parts_mem a a_mem part found)
  have b_ready := fun part found => ready' part
    (item_parts_mem b (order.mem_iff.mpr b_mem) part found)
  have both := told a a_mem
  exact .intro (both.1 b.1 (fun part found => a_ready part (.inl found))
      (fun part found => b_ready part (.inl found)) same.1)
    (both.2 b.2 (fun part found => a_ready part (.inr found))
      (fun part found => b_ready part (.inr found)) same.2)

theorem members_same {l l' p : List (RuntimeValue D)} (told : ∀ v ∈ l, Told sha np S v)
    (ready : ∀ part ∈ memberParts l, Ready sha np S part)
    (ready' : ∀ part ∈ memberParts l', Ready sha np S part) (order : l'.Perm p)
    (matched : List.Forall₂ (fun v w => sha (hashInput sha np v) = sha (hashInput sha np w)) l p) :
    List.Forall₂ (Same np) l p :=
  matching_imp matched fun v v_mem w w_mem digest => told v v_mem w
    (fun part found => ready part (member_parts_mem v v_mem part found))
    (fun part found => ready' part (member_parts_mem w (order.mem_iff.mpr w_mem) part found))
    digest

theorem members_induct {P : RuntimeValue D → Prop} (leaf : ∀ l, P (.leaf l))
    (enum : ∀ c t v, P v → P (.enum c t v))
    (array : ∀ a m, (∀ item ∈ keptItems m, P item.1 ∧ P item.2) → P (.array a m))
    (objectArray : ∀ s d v, P v → P (.objectArray s d v))
    (dataclass : ∀ c f, (∀ field ∈ keptFields f, P field.2) → P (.dataclass c f))
    (mapping : ∀ i, (∀ item ∈ keptItems i, P item.1 ∧ P item.2) → P (.mapping i))
    (sequence : ∀ k l, (∀ v ∈ l, P v) → P (.sequence k l))
    (set : ∀ k l, (∀ v ∈ l, P v) → P (.set k l)) (v : RuntimeValue D) : P v := by
  obtain ⟨n, n_eq⟩ : ∃ n, sizeOf v = n := ⟨_, rfl⟩
  induction n using Nat.strong_induction_on generalizing v with
  | _ n ih =>
    subst n_eq
    have items : ∀ i, sizeOf i < sizeOf v → ∀ item ∈ keptItems i, P item.1 ∧ P item.2 :=
      fun i inside item listed => ⟨ih _ ((item_smaller listed).1.trans inside) _ rfl,
        ih _ ((item_smaller listed).2.trans inside) _ rfl⟩
    have members : ∀ l, sizeOf l < sizeOf v → ∀ w ∈ l, P w := fun l inside w listed =>
      ih _ ((List.sizeOf_lt_of_mem listed).trans inside) _ rfl
    cases v with
    | leaf l => exact leaf l
    | enum c t v => exact enum c t v (ih _ (by simp) v rfl)
    | array a m => exact array a m (items m (by simp))
    | objectArray s d v => exact objectArray s d v (ih _ (by simp) v rfl)
    | dataclass c f =>
      exact dataclass c f fun field listed =>
        ih _ ((field_smaller listed).trans (by simp)) field.2 rfl
    | mapping i => exact mapping i (items i (by simp))
    | sequence k l => exact sequence k l (members l (by simp))
    | set k l => exact set k l (members l (by simp))

section Apart

variable (size : ∀ b, (sha b).length = 32)
include size

theorem items_matching {i i' : List (RuntimeValue D × RuntimeValue D)}
    (fits : (keptItems i).length < 256 ^ 8) (fits' : (keptItems i').length < 256 ^ 8)
    (h : sortedDigests (itemDigests sha np i) = sortedDigests (itemDigests sha np i')) :
    ∃ p, (keptItems i').Perm p ∧ List.Forall₂
      (fun a b => sha (itemInput sha np a) = sha (itemInput sha np b)) (keptItems i) p := by
  rw [item_digests_eq, item_digests_eq] at h
  have blocks : ∀ l : List (RuntimeValue D × RuntimeValue D),
      ∀ b ∈ l.map (fun item => sha (itemInput sha np item)), b.length = 32 := by
    intro l b listed
    obtain ⟨item, -, rfl⟩ := List.mem_map.mp listed
    exact size _
  refine exists_matching (sorted_digests_perm (blocks _) (blocks _) ?_ ?_ h)
  · rwa [List.length_map]
  · rwa [List.length_map]

theorem members_matching {l l' : List (RuntimeValue D)} (fits : l.length < 256 ^ 8)
    (fits' : l'.length < 256 ^ 8)
    (h : sortedDigests (memberDigests sha np l) = sortedDigests (memberDigests sha np l')) :
    ∃ p, l'.Perm p ∧ List.Forall₂
      (fun v w => sha (hashInput sha np v) = sha (hashInput sha np w)) l p := by
  rw [member_digests_eq, member_digests_eq] at h
  have blocks : ∀ l : List (RuntimeValue D),
      ∀ b ∈ l.map (fun v => sha (hashInput sha np v)), b.length = 32 := by
    intro l b listed
    obtain ⟨v, -, rfl⟩ := List.mem_map.mp listed
    exact size _
  refine exists_matching (sorted_digests_perm (blocks _) (blocks _) ?_ ?_ h)
  · rwa [List.length_map]
  · rwa [List.length_map]

theorem members_in_order {l l' : List (RuntimeValue D)} (fits : l.length < 256 ^ 8)
    (fits' : l'.length < 256 ^ 8)
    (h : toBytes 8 l.length ++ (memberDigests sha np l).flatten =
      toBytes 8 l'.length ++ (memberDigests sha np l').flatten) :
    List.Forall₂ (fun v w => sha (hashInput sha np v) = sha (hashInput sha np w)) l l' := by
  obtain ⟨counts, blocks⟩ := List.append_inj h (by rw [to_bytes_length, to_bytes_length])
  rw [member_digests_eq, member_digests_eq] at blocks
  have sizes : ∀ l : List (RuntimeValue D),
      ∀ b ∈ l.map (fun v => sha (hashInput sha np v)), b.length = 32 := by
    intro l b listed
    obtain ⟨v, -, rfl⟩ := List.mem_map.mp listed
    exact size _
  have same := blocks_inj (sizes _) (sizes _)
    (by rw [List.length_map, List.length_map, to_bytes_inj fits fits' counts]) blocks
  rw [← List.forall₂_eq_eq_eq] at same
  exact List.forall₂_map_left_iff.mp (List.forall₂_map_right_iff.mp same)

theorem fields_in_order : ∀ {f f' : List (String × RuntimeValue D)},
    (∀ field ∈ f, (utf8 field.1).length < 256 ^ 8) →
    (∀ field ∈ f', (utf8 field.1).length < 256 ^ 8) → f.length = f'.length →
    (f.flatMap fun field => text field.1 ++ sha (hashInput sha np field.2)) =
      (f'.flatMap fun field => text field.1 ++ sha (hashInput sha np field.2)) →
    List.Forall₂ (fun a b => a.1 = b.1 ∧ sha (hashInput sha np a.2) = sha (hashInput sha np b.2))
      f f'
  | [], [], _, _, _, _ => .nil
  | a :: f, b :: f', fits, fits', count, h => by
    rw [List.flatMap_cons, List.flatMap_cons, List.append_assoc, List.append_assoc] at h
    obtain ⟨name, h⟩ := text_append_inj (fits a List.mem_cons_self) (fits' b List.mem_cons_self) h
    obtain ⟨digest, h⟩ := List.append_inj h ((size _).trans (size _).symm)
    exact .cons ⟨name, digest⟩ (fields_in_order
      (fun c listed => fits c (List.mem_cons_of_mem a listed))
      (fun c listed => fits' c (List.mem_cons_of_mem b listed)) (Nat.succ.inj count) h)

theorem array_object_apart {a : ArrayBuffer D} {m : _} {shape : List ℕ} {d : String}
    {items : RuntimeValue D} (fits : ∀ length ∈ lengths np (.array a m), length < 256 ^ 8)
    (fits' : ∀ length ∈ lengths np (.objectArray shape d items), length < 256 ^ 8)
    (h : hashInput sha np (.array a m) = hashInput sha np (.objectArray shape d items)) : False := by
  unfold hashInput at h
  obtain ⟨-, rest⟩ := chars_append_inj (fits _ List.mem_cons_self) (fits' _ List.mem_cons_self)
    (List.append_cancel_left h)
  have count := congrArg List.length rest
  simp only [List.length_append, size, sized, to_bytes_length] at count
  omega

variable (inj : Set.InjOn sha S)
include inj

theorem mapping_matching {i i' : List (RuntimeValue D × RuntimeValue D)}
    (ready : Ready sha np S (.mapping i)) (ready' : Ready sha np S (.mapping i'))
    (h : hashInput sha np (.mapping i) = hashInput sha np (.mapping i')) :
    ∃ p, (keptItems i').Perm p ∧ List.Forall₂ (fun a b =>
      sha (hashInput sha np a.1) = sha (hashInput sha np b.1) ∧
        sha (hashInput sha np a.2) = sha (hashInput sha np b.2)) (keptItems i) p := by
  unfold hashInput at h
  obtain ⟨p, order, matched⟩ := items_matching size (ready.fits _ List.mem_cons_self)
    (ready'.fits _ List.mem_cons_self) (List.append_cancel_left h)
  refine ⟨p, order, matching_imp matched fun a a_mem b b_mem same => ?_⟩
  have inputs := inj (ready.inputs _ (List.mem_cons_of_mem _ (List.mem_map_of_mem a_mem)))
    (ready'.inputs _ (List.mem_cons_of_mem _ (List.mem_map_of_mem (order.mem_iff.mpr b_mem)))) same
  exact List.append_inj inputs ((size _).trans (size _).symm)

omit size in
theorem meet_of_digest {v w : RuntimeValue D} (v_ready : ∀ part ∈ parts v, Ready sha np S part)
    (w_ready : ∀ part ∈ parts w, Ready sha np S part)
    (digests : sha (hashInput sha np v) = sha (hashInput sha np w)) :
    Ready sha np S v ∧ Ready sha np S w ∧ hashInput sha np v = hashInput sha np w ∧
      v.tag = w.tag ∧ v.kind = w.kind := by
  have v_self := v_ready v (self_mem_parts v)
  have w_self := w_ready w (self_mem_parts w)
  have h := inj (v_self.inputs _ List.mem_cons_self) (w_self.inputs _ List.mem_cons_self) digests
  exact ⟨v_self, w_self, h, tags_eq h, kinds_eq h⟩

variable (numpy : np.Documented)
include numpy

theorem same_of_digest (v w : RuntimeValue D) (v_ready : ∀ part ∈ parts v, Ready sha np S part)
    (w_ready : ∀ part ∈ parts w, Ready sha np S part)
    (digests : sha (hashInput sha np v) = sha (hashInput sha np w)) : Same np v w := by
  induction v using members_induct generalizing w with
  | leaf l =>
    obtain ⟨v_self, w_self, h, tags, kinds⟩ := meet_of_digest inj v_ready w_ready digests
    cases w with
    | leaf l' =>
      unfold hashInput at h
      exact .leaf (leaf_inj v_self.fits w_self.fits tags (tag_append_inj h).2)
    | _ => cases kinds
  | enum c t v ih =>
    obtain ⟨v_self, w_self, h, -, kinds⟩ := meet_of_digest inj v_ready w_ready digests
    cases w with
    | enum c' t' w =>
      unfold hashInput at h
      obtain ⟨rfl, digest⟩ := text_append_inj (v_self.fits _ List.mem_cons_self)
        (w_self.fits _ List.mem_cons_self) (List.append_cancel_left h)
      unfold parts at v_ready w_ready
      exact .enum (ih w (fun part found => v_ready part (List.mem_cons_of_mem _ found))
        (fun part found => w_ready part (List.mem_cons_of_mem _ found)) digest)
    | _ => cases kinds
  | array a m ih =>
    obtain ⟨v_self, w_self, h, -, kinds⟩ := meet_of_digest inj v_ready w_ready digests
    cases w with
    | array a' m' =>
      unfold parts at v_ready w_ready
      have meta_self := v_ready (.mapping m) (List.mem_cons_of_mem _ List.mem_cons_self)
      have meta_self' := w_ready (.mapping m') (List.mem_cons_of_mem _ List.mem_cons_self)
      unfold hashInput at h
      obtain ⟨shapes, h⟩ := chars_append_inj (v_self.fits _ List.mem_cons_self)
        (w_self.fits _ List.mem_cons_self) (List.append_cancel_left h)
      obtain ⟨dtypes, h⟩ := dtype_append_inj numpy v_self.fits w_self.fits h
      obtain ⟨metadata, h⟩ := List.append_inj h ((size _).trans (size _).symm)
      have data_fits := v_self.fits (a.normalizedData np).length (by simp [lengths])
      have data_fits' := w_self.fits (a'.normalizedData np).length (by simp [lengths])
      obtain ⟨data, -⟩ := sized_append_inj (x := []) (y := []) data_fits data_fits'
        (by rw [List.append_nil, List.append_nil]; exact h)
      rw [normalized_data_eq numpy v_self.ordered, normalized_data_eq numpy w_self.ordered] at data
      have mapped : hashInput sha np (.mapping m) = hashInput sha np (.mapping m') :=
        inj (meta_self.inputs _ List.mem_cons_self) (meta_self'.inputs _ List.mem_cons_self)
          (by unfold hashInput; exact metadata)
      obtain ⟨p, order, matched⟩ := mapping_matching size inj meta_self meta_self' mapped
      exact .array ⟨shape_chars_inj shapes, dtypes, data⟩ order (items_same ih
        (fun part found => v_ready part (List.mem_cons_of_mem _ (List.mem_cons_of_mem _ found)))
        (fun part found => w_ready part (List.mem_cons_of_mem _ (List.mem_cons_of_mem _ found)))
        order matched)
    | objectArray shape d w => exact (array_object_apart size v_self.fits w_self.fits h).elim
    | _ => cases kinds
  | objectArray shape d v ih =>
    obtain ⟨v_self, w_self, h, -, kinds⟩ := meet_of_digest inj v_ready w_ready digests
    cases w with
    | array a m => exact (array_object_apart size w_self.fits v_self.fits h.symm).elim
    | objectArray shape' d' w =>
      unfold hashInput at h
      obtain ⟨shapes, digest⟩ := chars_append_inj (v_self.fits _ List.mem_cons_self)
        (w_self.fits _ List.mem_cons_self) (List.append_cancel_left h)
      obtain rfl := shape_chars_inj shapes
      unfold parts at v_ready w_ready
      exact .objectArray (ih w (fun part found => v_ready part (List.mem_cons_of_mem _ found))
        (fun part found => w_ready part (List.mem_cons_of_mem _ found)) digest)
    | _ => cases kinds
  | dataclass c f ih =>
    obtain ⟨v_self, w_self, h, -, kinds⟩ := meet_of_digest inj v_ready w_ready digests
    cases w with
    | dataclass c' f' =>
      unfold hashInput at h
      obtain ⟨rfl, rest⟩ := text_append_inj (v_self.fits _ List.mem_cons_self)
        (w_self.fits _ List.mem_cons_self) (List.append_cancel_left h)
      obtain ⟨counts, rest⟩ := List.append_inj rest (by rw [to_bytes_length, to_bytes_length])
      have count := to_bytes_inj (v_self.fits _ (List.mem_cons_of_mem _ List.mem_cons_self))
        (w_self.fits _ (List.mem_cons_of_mem _ List.mem_cons_self)) counts
      rw [field_bytes_eq, field_bytes_eq] at rest
      have matched := fields_in_order size
        (fun field listed => v_self.fits _ (List.mem_cons_of_mem _ (List.mem_cons_of_mem _
          (List.mem_map_of_mem listed))))
        (fun field listed => w_self.fits _ (List.mem_cons_of_mem _ (List.mem_cons_of_mem _
          (List.mem_map_of_mem listed)))) count rest
      unfold parts at v_ready w_ready
      refine .dataclass (matching_imp matched fun a a_mem b b_mem same => ?_)
      have inner := ih a a_mem b.2
        (fun part found => v_ready part (List.mem_cons_of_mem _ (field_parts_mem a a_mem part found)))
        (fun part found => w_ready part (List.mem_cons_of_mem _ (field_parts_mem b b_mem part found)))
        same.2
      obtain ⟨n, v⟩ := a
      obtain ⟨n', w⟩ := b
      obtain rfl := same.1
      exact .intro inner
    | _ => cases kinds
  | mapping i ih =>
    obtain ⟨v_self, w_self, h, -, kinds⟩ := meet_of_digest inj v_ready w_ready digests
    cases w with
    | mapping i' =>
      obtain ⟨p, order, matched⟩ := mapping_matching size inj v_self w_self h
      unfold parts at v_ready w_ready
      exact .mapping order (items_same ih
        (fun part found => v_ready part (List.mem_cons_of_mem _ found))
        (fun part found => w_ready part (List.mem_cons_of_mem _ found)) order matched)
    | _ => cases kinds
  | sequence k l ih =>
    obtain ⟨v_self, w_self, h, tags, kinds⟩ := meet_of_digest inj v_ready w_ready digests
    cases w with
    | sequence k' l' =>
      have kind : k = k' := by
        cases k <;> cases k' <;> first | rfl | cases tags
      subst kind
      unfold hashInput at h
      have matched := members_in_order size (v_self.fits _ List.mem_cons_self)
        (w_self.fits _ List.mem_cons_self) (List.append_cancel_left h)
      unfold parts at v_ready w_ready
      exact .sequence (members_same ih
        (fun part found => v_ready part (List.mem_cons_of_mem _ found))
        (fun part found => w_ready part (List.mem_cons_of_mem _ found)) (.refl _) matched)
    | _ => cases kinds
  | set k l ih =>
    obtain ⟨v_self, w_self, h, tags, kinds⟩ := meet_of_digest inj v_ready w_ready digests
    cases w with
    | set k' l' =>
      have kind : k = k' := by
        cases k <;> cases k' <;> first | rfl | cases tags
      subst kind
      unfold hashInput at h
      obtain ⟨p, order, matched⟩ := members_matching size (v_self.fits _ List.mem_cons_self)
        (w_self.fits _ List.mem_cons_self) (List.append_cancel_left h)
      unfold parts at v_ready w_ready
      exact .set order (members_same ih
        (fun part found => v_ready part (List.mem_cons_of_mem _ found))
        (fun part found => w_ready part (List.mem_cons_of_mem _ found)) order matched)
    | _ => cases kinds

end Apart

def HashedAlike (sha : Bytes → Bytes) (np : DTypes D) (v : RuntimeValue D) : Prop :=
  ∀ {w}, LittleFields np v → LittleFields np w → Same np v w → hashInput sha np v = hashInput sha np w

theorem items_alike {i i' p : List (RuntimeValue D × RuntimeValue D)}
    (alike : ∀ item ∈ keptItems i, HashedAlike sha np item.1 ∧ HashedAlike sha np item.2)
    (order : ∀ part ∈ itemParts i, OrderedPart np part)
    (order' : ∀ part ∈ itemParts i', OrderedPart np part) (perm : (keptItems i').Perm p)
    (matched : List.Forall₂ (SameItem np) (keptItems i) p) :
    List.Forall₂ (fun a b => itemInput sha np a = itemInput sha np b) (keptItems i) p := by
  refine matching_imp matched fun a a_mem b b_mem same => ?_
  have both := alike a a_mem
  have a_order := fun part found => order part (item_parts_mem a a_mem part found)
  have b_order := fun part found => order' part
    (item_parts_mem b (perm.mem_iff.mpr b_mem) part found)
  cases same with
  | intro keys values =>
    unfold itemInput
    rw [both.1 (fun part found => a_order part (.inl found))
        (fun part found => b_order part (.inl found)) keys,
      both.2 (fun part found => a_order part (.inr found))
        (fun part found => b_order part (.inr found)) values]

theorem members_alike {l l' p : List (RuntimeValue D)} (alike : ∀ v ∈ l, HashedAlike sha np v)
    (order : ∀ part ∈ memberParts l, OrderedPart np part)
    (order' : ∀ part ∈ memberParts l', OrderedPart np part) (perm : l'.Perm p)
    (matched : List.Forall₂ (Same np) l p) :
    List.Forall₂ (fun v w => sha (hashInput sha np v) = sha (hashInput sha np w)) l p :=
  matching_imp matched fun v v_mem w w_mem same => congrArg sha (alike v v_mem
    (fun part found => order part (member_parts_mem v v_mem part found))
    (fun part found => order' part (member_parts_mem w (perm.mem_iff.mpr w_mem) part found)) same)

theorem input_of_same (numpy : np.Documented) {v w : RuntimeValue D} (v_order : LittleFields np v)
    (w_order : LittleFields np w) (same : Same np v w) :
    hashInput sha np v = hashInput sha np w := by
  induction v using members_induct generalizing w with
  | leaf l =>
    cases same with
    | leaf same =>
      obtain ⟨tags, bodies⟩ := leaf_of_same same
      unfold hashInput
      rw [tags, bodies]
  | enum c t v ih =>
    cases same with
    | enum same =>
      unfold LittleFields parts at v_order w_order
      have inner := ih (fun part found => v_order part (List.mem_cons_of_mem _ found))
        (fun part found => w_order part (List.mem_cons_of_mem _ found)) same
      unfold hashInput
      rw [inner]
  | array a m ih =>
    cases same with
    | array same order matched =>
      obtain ⟨shapes, dtypes, elements⟩ := same
      have data := normalized_data_eq numpy (v_order _ (self_mem_parts _))
      have data' := normalized_data_eq numpy (w_order _ (self_mem_parts _))
      unfold LittleFields parts at v_order w_order
      have metadata := sorted_items_eq order (items_alike ih
        (fun part found => v_order part (List.mem_cons_of_mem _ (List.mem_cons_of_mem _ found)))
        (fun part found => w_order part (List.mem_cons_of_mem _ (List.mem_cons_of_mem _ found)))
        order matched)
      unfold hashInput mappingInput
      rw [shapes, normalized_dtype_eq numpy, normalized_dtype_eq numpy, dtypes, metadata, data,
        data', elements]
  | objectArray s d v ih =>
    cases same with
    | objectArray same =>
      unfold LittleFields parts at v_order w_order
      have inner := ih (fun part found => v_order part (List.mem_cons_of_mem _ found))
        (fun part found => w_order part (List.mem_cons_of_mem _ found)) same
      unfold hashInput
      rw [inner]
  | dataclass c f ih =>
    cases same with
    | @dataclass _ _ f' matched =>
      unfold LittleFields parts at v_order w_order
      have alike : List.Forall₂ (fun a b : String × RuntimeValue D =>
          text a.1 ++ sha (hashInput sha np a.2) = text b.1 ++ sha (hashInput sha np b.2))
          (keptFields f) (keptFields f') := by
        refine matching_imp matched fun a a_mem b b_mem same => ?_
        cases same with
        | intro same =>
          rw [ih _ a_mem (fun part found => v_order part
              (List.mem_cons_of_mem _ (field_parts_mem _ a_mem part found)))
            (fun part found => w_order part
              (List.mem_cons_of_mem _ (field_parts_mem _ b_mem part found))) same]
      unfold hashInput
      rw [field_bytes_eq, field_bytes_eq, matched.length_eq, List.flatMap_def, List.flatMap_def,
        map_eq_of_matching alike]
  | mapping i ih =>
    cases same with
    | mapping order matched =>
      unfold LittleFields parts at v_order w_order
      have digests := sorted_items_eq order (items_alike ih
        (fun part found => v_order part (List.mem_cons_of_mem _ found))
        (fun part found => w_order part (List.mem_cons_of_mem _ found)) order matched)
      unfold hashInput mappingInput
      rw [digests]
  | sequence k l ih =>
    cases same with
    | sequence matched =>
      unfold LittleFields parts at v_order w_order
      have alike := members_alike ih
        (fun part found => v_order part (List.mem_cons_of_mem _ found))
        (fun part found => w_order part (List.mem_cons_of_mem _ found)) (.refl _) matched
      unfold hashInput
      rw [member_digests_eq, member_digests_eq, matched.length_eq, map_eq_of_matching alike]
  | set k l ih =>
    cases same with
    | set order matched =>
      unfold LittleFields parts at v_order w_order
      have alike := members_alike ih
        (fun part found => v_order part (List.mem_cons_of_mem _ found))
        (fun part found => w_order part (List.mem_cons_of_mem _ found)) order matched
      unfold hashInput
      rw [member_digests_eq, member_digests_eq,
        sorted_digests_of_perm (map_perm_of_matching order alike)]

theorem digest_some {v : RuntimeValue D} {d : Bytes} (h : runtimeValueDigest sha np v = some d) :
    d = sha (hashInput sha np v) ∧
      ∀ part ∈ parts v, ∀ length ∈ lengths np part, length < 256 ^ 8 := by
  unfold runtimeValueDigest at h
  split at h
  · exact ⟨(Option.some.inj h).symm, ‹_›⟩
  · cases h

/-- Two values have one digest exactly when they are the same, if SHA-256 has no collision among
what is hashed for them. -/
theorem runtime_value_digest_separates {v w : RuntimeValue D} {d e : Bytes}
    (numpy : np.Documented) (size : ∀ b, (sha b).length = 32)
    (apart : Set.InjOn sha {b | b ∈ hashed sha np v ∨ b ∈ hashed sha np w})
    (v_order : LittleFields np v) (w_order : LittleFields np w)
    (v_digest : runtimeValueDigest sha np v = some d)
    (w_digest : runtimeValueDigest sha np w = some e) : d = e ↔ Same np v w := by
  obtain ⟨rfl, v_fits⟩ := digest_some v_digest
  obtain ⟨rfl, w_fits⟩ := digest_some w_digest
  constructor
  · intro same
    exact same_of_digest size apart numpy v w
      (fun part found => ⟨fun b input => .inl (List.mem_flatMap.mpr ⟨part, found, input⟩),
        v_fits part found, v_order part found⟩)
      (fun part found => ⟨fun b input => .inr (List.mem_flatMap.mpr ⟨part, found, input⟩),
        w_fits part found, w_order part found⟩) same
  · intro same
    rw [input_of_same numpy v_order w_order same]

section Samples

/-- Doubles, and integers of four bytes that stand alone or as the field of a record. -/
inductive SampleDtype where
  | double
  | int (isBig : Bool)
  | record (isBig : Bool)
  deriving DecidableEq

/-- These dtypes as numpy has them on a little-endian host, for arrays of one element. -/
def sampleDtypes : DTypes SampleDtype where
  littleEndian := true
  byteorder
    | .int true => '>'
    | .record _ => '|'
    | _ => '='
  newbyteorder
    | .double => .double
    | .int _ => .int false
    | .record _ => .record false
  byteswap _ := List.reverse
  elements
    | .int true => List.reverse
    | .record true => List.reverse
    | _ => id
  str
    | .double => "<f8"
    | .int isBig => if isBig then ">i4" else "<i4"
    | .record _ => "|V4"
  descr
    | .double => "'<f8'"
    | .int isBig => if isBig then "'>i4'" else "'<i4'"
    | .record isBig => if isBig then "[('a', '>i4')]" else "[('a', '<i4')]"
  itemsize
    | .double => 8
    | _ => 4
  alignment
    | .double => 8
    | .int _ => 4
    | .record _ => 1
  isalignedstruct _ := false

theorem sample_dtypes_documented : sampleDtypes.Documented where
  newbyteorder_twice d := by cases d <;> rfl
  descr_replicates d d' str descr _ _ _ := by
    cases d <;> cases d' <;> first | rfl | simp [sampleDtypes] at str
  elements_swapped d data swapped := by
    cases d with
    | double => exact absurd swapped (by decide)
    | int isBig =>
      cases isBig with
      | false => exact absurd swapped (by decide)
      | true => rfl
    | record isBig => exact absurd swapped (by cases isBig <;> decide)
  elements_stored d data stored := by
    cases d with
    | double => rfl
    | int isBig =>
      cases isBig with
      | false => rfl
      | true => cases stored
    | record isBig =>
      cases isBig with
      | false => rfl
      | true => cases stored

/-- Some byte strings with their SHA-256 digests. -/
def sampleDigests : List (Bytes × Bytes) :=
  let key := [116, 245, 240, 253, 81, 45, 118, 239, 130, 93, 84, 189, 83, 98, 252, 17, 239, 96, 142,
    30, 231, 189, 249, 35, 234, 94, 198, 85, 160, 142, 49, 52]
  let value := [111, 113, 212, 55, 200, 150, 71, 245, 248, 238, 166, 198, 118, 162, 133, 22, 71, 178,
    26, 69, 73, 100, 68, 67, 54, 241, 24, 80, 222, 155, 91, 102]
  let item := [95, 237, 208, 127, 92, 85, 11, 89, 54, 213, 198, 3, 224, 225, 149, 234, 62, 7, 227, 3,
    36, 201, 12, 150, 248, 93, 230, 180, 102, 250, 48, 179]
  let empty := [37, 115, 214, 119, 244, 170, 66, 32, 91, 211, 139, 48, 0, 116, 10, 210, 164, 162, 53,
    161, 46, 245, 188, 138, 32, 218, 65, 175, 37, 131, 216, 204]
  [(utf8 "str" ++ text "tick", key),
    (utf8 "int" ++ text "1", value),
    (key ++ value, item),
    (utf8 "mapping" ++ toBytes 8 1 ++ item,
      [176, 137, 69, 184, 121, 69, 184, 139, 8, 137, 208, 111, 57, 205, 132, 94, 117, 183, 223, 24,
        210, 95, 2, 54, 31, 153, 214, 67, 188, 229, 220, 56]),
    (utf8 "float" ++ text "0x1.0000000000000p+0",
      [78, 226, 225, 113, 51, 86, 137, 6, 228, 30, 182, 179, 23, 72, 252, 74, 234, 226, 98, 64, 166,
        200, 201, 226, 101, 180, 116, 140, 18, 124, 52, 230]),
    (utf8 "mapping" ++ toBytes 8 0, empty),
    (utf8 "ndarray" ++ text "()" ++ text "<f8" ++ text "'<f8'" ++ text "8" ++ text "8" ++
        utf8 "aligned0" ++ empty ++ sized [0, 0, 0, 0, 0, 0, 240, 63],
      [24, 7, 103, 79, 142, 6, 51, 214, 153, 166, 122, 28, 25, 28, 119, 127, 148, 76, 148, 1, 226,
        154, 246, 156, 183, 186, 73, 184, 166, 51, 223, 214])]

/-- SHA-256 on the byte strings of the samples. -/
def sampleSha (b : Bytes) : Bytes := (sampleDigests.lookup b).getD (List.replicate 32 0)

theorem sample_sha_length (b : Bytes) : (sampleSha b).length = 32 := by
  have sizes : ∀ entry ∈ sampleDigests, entry.2.length = 32 := by decide +kernel
  unfold sampleSha
  cases found : sampleDigests.lookup b with
  | none => exact List.length_replicate
  | some digest =>
    obtain ⟨before, after, split, -⟩ := List.lookup_eq_some_iff.mp found
    exact sizes (b, digest) (split ▸ List.mem_append_right before List.mem_cons_self)

def timedTick (wallNs : ℤ) : RuntimeValue SampleDtype :=
  .mapping [(.leaf (.str false "tick"), .leaf (.int 1)),
    (.leaf (.str false "step_wall_ns"), .leaf (.int wallNs))]

theorem timed_tick_digest : ∃ d e,
    runtimeValueDigest sampleSha sampleDtypes (timedTick 5) = some d ∧
    runtimeValueDigest sampleSha sampleDtypes (timedTick 9) = some e ∧
    (d = e ↔ Same sampleDtypes (timedTick 5) (timedTick 9)) := by
  have apart : ∀ a ∈ hashed sampleSha sampleDtypes (timedTick 5) ++
      hashed sampleSha sampleDtypes (timedTick 9),
      ∀ b ∈ hashed sampleSha sampleDtypes (timedTick 5) ++
        hashed sampleSha sampleDtypes (timedTick 9), sampleSha a = sampleSha b → a = b := by
    decide +kernel
  obtain ⟨d, d_eq⟩ : ∃ d, runtimeValueDigest sampleSha sampleDtypes (timedTick 5) = some d :=
    Option.isSome_iff_exists.mp (by decide +kernel)
  obtain ⟨e, e_eq⟩ : ∃ e, runtimeValueDigest sampleSha sampleDtypes (timedTick 9) = some e :=
    Option.isSome_iff_exists.mp (by decide +kernel)
  refine ⟨d, e, d_eq, e_eq, runtime_value_digest_separates sample_dtypes_documented
    sample_sha_length ?_ (by decide +kernel) (by decide +kernel) d_eq e_eq⟩
  intro a a_in b b_in same
  exact apart a (List.mem_append.mpr a_in) b (List.mem_append.mpr b_in) same

/-- A numpy double, as a scalar and as the array that `np.asarray` makes of it. -/
def doubleOne : RuntimeValue SampleDtype :=
  .leaf (.float true { sign := false, exponent := 1023, fraction := 0 })

def doubleOneArray : RuntimeValue SampleDtype :=
  .array ⟨.array, [], .double, [0, 0, 0, 0, 0, 0, 240, 63]⟩ []

/-- A record with one integer field, stored in big-endian order or not. -/
def recordArray (isBig : Bool) : ArrayBuffer SampleDtype := ⟨.array, [1], .record isBig, [0, 0, 0, 1]⟩

/-- The list that an array of one tuple of objects, or of one record of objects, converts to. -/
def nestedSeven : RuntimeValue SampleDtype := .sequence false [.sequence true [.leaf (.int 7)]]

/-- A numpy double is not digested as its array; and the same bytes are hashed for arrays that
differ in their elements, or in their dtype. -/
theorem digests_of_scalars_and_records :
    runtimeValueDigest sampleSha sampleDtypes doubleOne ≠
      runtimeValueDigest sampleSha sampleDtypes doubleOneArray ∧
    (hashInput sampleSha sampleDtypes (.array (recordArray true) []) =
        hashInput sampleSha sampleDtypes (.array (recordArray false) []) ∧
      ¬ (recordArray true).Same sampleDtypes (recordArray false)) ∧
    hashInput sampleSha sampleDtypes (.objectArray [1] "|O" nestedSeven) =
      hashInput sampleSha sampleDtypes (.objectArray [1] "[('a', '|O')]" nestedSeven) := by
  refine ⟨by decide +kernel, ⟨by decide +kernel, ?_⟩, by decide +kernel⟩
  rintro ⟨-, -, elements⟩
  exact absurd elements (by decide)

end Samples

end Metroflow.Replay
