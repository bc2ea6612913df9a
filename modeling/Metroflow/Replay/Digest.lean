import Metroflow.Replay.Values

namespace Metroflow.Replay

open Metroflow.Lib

section Values

/-- A value without parts. A numpy double, string or byte string is also a Python one. -/
inductive Leaf where
  | none
  | bool (b : Bool)
  | int (i : ℤ)
  | float (numpy : Bool) (x : PyFloat)
  | str (numpy : Bool) (s : String)
  | bytes (numpy : Bool) (b : Bytes)
  deriving DecidableEq

/-- What is digested as an array: the other numpy scalars, arrays, and what converts to one. -/
inductive ArrayKind where
  | scalar
  | array
  | arrayLike
  deriving DecidableEq

/-- An array as `np.asarray` gives it, its elements' bytes in C order. -/
structure ArrayBuffer (D : Type) where
  kind : ArrayKind
  shape : List ℕ
  dtype : D
  data : Bytes
  deriving DecidableEq

/-- The values that can be digested. An array of Python objects is its shape and its nested list;
an enumeration keeps its text when it is a string too. -/
inductive RuntimeValue (D : Type) where
  | leaf (l : Leaf)
  | enum (className : String) (asText : Option String) (value : RuntimeValue D)
  | array (buffer : ArrayBuffer D) (metadata : List (RuntimeValue D × RuntimeValue D))
  | objectArray (shape : List ℕ) (dtype : String) (items : RuntimeValue D)
  | dataclass (className : String) (fields : List (String × RuntimeValue D))
  | mapping (items : List (RuntimeValue D × RuntimeValue D))
  | sequence (isTuple : Bool) (items : List (RuntimeValue D))
  | set (isFrozen : Bool) (items : List (RuntimeValue D))

/-- What numpy tells about the dtypes of arrays without Python objects. -/
structure DTypes (D : Type) where
  littleEndian : Bool
  byteorder : D → Char
  newbyteorder : D → D
  byteswap : D → Bytes → Bytes
  /-- The bytes of the elements in little-endian order. -/
  elements : D → Bytes → Bytes
  str : D → String
  descr : D → String
  itemsize : D → ℕ
  alignment : D → ℕ
  isalignedstruct : D → Bool

variable {D : Type}

def isReplayAuthoritativeKey (key : String) : Bool :=
  !(["_seconds_total", "_wall_ns", "_wall_ns_total"].any fun suffix =>
    suffix.toList.isSuffixOf key.toList)

/-- Whether an item of a mapping is digested. -/
def keyKept : RuntimeValue D → Bool
  | .leaf (.str _ s) => isReplayAuthoritativeKey s
  | .enum _ (some s) _ => isReplayAuthoritativeKey s
  | _ => true

def keptItems (items : List (RuntimeValue D × RuntimeValue D)) :
    List (RuntimeValue D × RuntimeValue D) :=
  items.filter fun item => keyKept item.1

def keptFields (fields : List (String × RuntimeValue D)) : List (String × RuntimeValue D) :=
  fields.filter fun field => isReplayAuthoritativeKey field.1

def Leaf.Same : Leaf → Leaf → Prop
  | .none, .none => True
  | .bool b, .bool b' => b = b'
  | .int i, .int i' => i = i'
  | .float _ x, .float _ x' => x.Same x'
  | .str _ s, .str _ s' => s = s'
  | .bytes _ b, .bytes _ b' => b = b'
  | _, _ => False

/-- Two arrays with the same elements, in whatever byte order. -/
def ArrayBuffer.Same (np : DTypes D) (a a' : ArrayBuffer D) : Prop :=
  a.shape = a'.shape ∧ np.newbyteorder a.dtype = np.newbyteorder a'.dtype ∧
    np.elements a.dtype a.data = np.elements a'.dtype a'.data

variable (np : DTypes D)

mutual

/-- The same value up to the order of mappings and sets, and what is not digested. -/
inductive Same : RuntimeValue D → RuntimeValue D → Prop
  | leaf {l l'} : l.Same l' → Same (.leaf l) (.leaf l')
  | enum {c t t' v v'} : Same v v' → Same (.enum c t v) (.enum c t' v')
  | array {a a' m m' p} : a.Same np a' → (keptItems m').Perm p →
      List.Forall₂ SameItem (keptItems m) p → Same (.array a m) (.array a' m')
  | objectArray {s d d' v v'} : Same v v' → Same (.objectArray s d v) (.objectArray s d' v')
  | dataclass {c f f'} : List.Forall₂ SameField (keptFields f) (keptFields f') →
      Same (.dataclass c f) (.dataclass c f')
  | mapping {i i' p} : (keptItems i').Perm p → List.Forall₂ SameItem (keptItems i) p →
      Same (.mapping i) (.mapping i')
  | sequence {k l l'} : List.Forall₂ Same l l' → Same (.sequence k l) (.sequence k l')
  | set {k l l' p} : l'.Perm p → List.Forall₂ Same l p → Same (.set k l) (.set k l')

inductive SameItem : RuntimeValue D × RuntimeValue D → RuntimeValue D × RuntimeValue D → Prop
  | intro {k k' v v'} : Same k k' → Same v v' → SameItem (k, v) (k', v')

inductive SameField : String × RuntimeValue D → String × RuntimeValue D → Prop
  | intro {n v v'} : Same v v' → SameField (n, v) (n, v')

end

end Values

section Encoding

inductive Tag where
  | none
  | bool0
  | bool1
  | int
  | float
  | str
  | bytes
  | enum
  | ndarray
  | dataclass
  | mapping
  | tuple
  | list
  | frozenset
  | set
  deriving DecidableEq

def Tag.name : Tag → String
  | .none => "none"
  | .bool0 => "bool0"
  | .bool1 => "bool1"
  | .int => "int"
  | .float => "float"
  | .str => "str"
  | .bytes => "bytes"
  | .enum => "enum"
  | .ndarray => "ndarray"
  | .dataclass => "dataclass"
  | .mapping => "mapping"
  | .tuple => "tuple"
  | .list => "list"
  | .frozenset => "frozenset"
  | .set => "set"

def Tag.all : List Tag := [.none, .bool0, .bool1, .int, .float, .str, .bytes, .enum, .ndarray,
  .dataclass, .mapping, .tuple, .list, .frozenset, .set]

theorem tag_append_inj {t t' : Tag} {x y : Bytes} (h : utf8 t.name ++ x = utf8 t'.name ++ y) :
    t = t' ∧ x = y := by
  have listed : ∀ t, t ∈ Tag.all := by
    intro t
    cases t <;> decide
  have free : ∀ t ∈ Tag.all, ∀ t' ∈ Tag.all, utf8 t.name <+: utf8 t'.name → t = t' := by decide
  have same : t = t' := by
    have first : utf8 t.name <+: utf8 t.name ++ x := List.prefix_append _ _
    have second : utf8 t'.name <+: utf8 t.name ++ x := h ▸ List.prefix_append _ _
    rcases List.prefix_or_prefix_of_prefix first second with shorter | longer
    · exact free t (listed t) t' (listed t') shorter
    · exact (free t' (listed t') t (listed t) longer).symm
  subst same
  exact ⟨rfl, List.append_cancel_left h⟩

/-- A text with its length in front. -/
def text (s : String) : Bytes := sized (utf8 s)

def chars (l : List Char) : Bytes := text (String.ofList l)

def Leaf.tag : Leaf → Tag
  | .none => .none
  | .bool false => .bool0
  | .bool true => .bool1
  | .int _ => .int
  | .float _ _ => .float
  | .str _ _ => .str
  | .bytes _ _ => .bytes

def Leaf.body : Leaf → Bytes
  | .none => []
  | .bool _ => []
  | .int i => chars (intChars i)
  | .float _ x => chars x.hex
  | .str _ s => text s
  | .bytes _ b => sized b

variable {D : Type} (sha : Bytes → Bytes) (np : DTypes D)

/-- Whether the bytes of an array are swapped before they are digested. -/
def DTypes.swaps (d : D) : Bool :=
  np.byteorder d = '>' || (np.byteorder d = '=' && !np.littleEndian)

def DTypes.normalizedDtype (d : D) : D :=
  np.newbyteorder (if np.swaps d then np.newbyteorder d else d)

def ArrayBuffer.normalizedData (a : ArrayBuffer D) : Bytes :=
  if np.swaps a.dtype then np.byteswap a.dtype a.data else a.data

/-- What is digested of a dtype, but for its metadata. -/
def DTypes.dtypeBytes (d : D) : Bytes :=
  text (np.str d) ++ (text (np.descr d) ++ (chars (Nat.toDigits 10 (np.itemsize d)) ++
    (chars (Nat.toDigits 10 (np.alignment d)) ++
      utf8 (if np.isalignedstruct d then "aligned1" else "aligned0"))))

/-- Digests in a fixed order, with their count in front. -/
def sortedDigests (digests : List Bytes) : Bytes :=
  toBytes 8 digests.length ++ (digests.insertionSort (· ≤ ·)).flatten

def mappingInput (digests : List Bytes) : Bytes := utf8 Tag.mapping.name ++ sortedDigests digests

mutual

def hashInput : RuntimeValue D → Bytes
  | .leaf l => utf8 l.tag.name ++ l.body
  | .enum c _ v => utf8 Tag.enum.name ++ (text c ++ sha (hashInput v))
  | .array a m =>
    utf8 Tag.ndarray.name ++ (chars (shapeChars a.shape) ++
      (np.dtypeBytes (np.normalizedDtype a.dtype) ++
        (sha (mappingInput (itemDigests m)) ++ sized (a.normalizedData np))))
  | .objectArray shape _ items =>
    utf8 Tag.ndarray.name ++ (chars (shapeChars shape) ++ sha (hashInput items))
  | .dataclass c f =>
    utf8 Tag.dataclass.name ++ (text c ++ (toBytes 8 (keptFields f).length ++ fieldBytes f))
  | .mapping i => mappingInput (itemDigests i)
  | .sequence isTuple l =>
    utf8 (if isTuple then Tag.tuple.name else Tag.list.name) ++
      (toBytes 8 l.length ++ (memberDigests l).flatten)
  | .set isFrozen l =>
    utf8 (if isFrozen then Tag.frozenset.name else Tag.set.name) ++
      sortedDigests (memberDigests l)

def itemDigests : List (RuntimeValue D × RuntimeValue D) → List Bytes
  | [] => []
  | (k, v) :: rest =>
    if keyKept k then sha (sha (hashInput k) ++ sha (hashInput v)) :: itemDigests rest
    else itemDigests rest

def fieldBytes : List (String × RuntimeValue D) → Bytes
  | [] => []
  | (n, v) :: rest =>
    if isReplayAuthoritativeKey n then text n ++ (sha (hashInput v) ++ fieldBytes rest)
    else fieldBytes rest

def memberDigests : List (RuntimeValue D) → List Bytes
  | [] => []
  | v :: rest => sha (hashInput v) :: memberDigests rest

end

mutual

/-- The values that are digested for a value, itself included. -/
def parts : RuntimeValue D → List (RuntimeValue D)
  | .leaf l => [.leaf l]
  | .enum c t v => .enum c t v :: parts v
  | .array a m => .array a m :: .mapping m :: itemParts m
  | .objectArray shape d v => .objectArray shape d v :: parts v
  | .dataclass c f => .dataclass c f :: fieldParts f
  | .mapping i => .mapping i :: itemParts i
  | .sequence k l => .sequence k l :: memberParts l
  | .set k l => .set k l :: memberParts l

def itemParts : List (RuntimeValue D × RuntimeValue D) → List (RuntimeValue D)
  | [] => []
  | (k, v) :: rest =>
    if keyKept k then parts k ++ (parts v ++ itemParts rest) else itemParts rest

def fieldParts : List (String × RuntimeValue D) → List (RuntimeValue D)
  | [] => []
  | (n, v) :: rest =>
    if isReplayAuthoritativeKey n then parts v ++ fieldParts rest else fieldParts rest

def memberParts : List (RuntimeValue D) → List (RuntimeValue D)
  | [] => []
  | v :: rest => parts v ++ memberParts rest

end

def Leaf.lengths : Leaf → List ℕ
  | .int i => [(utf8 (String.ofList (intChars i))).length]
  | .float _ x => [(utf8 (String.ofList x.hex)).length]
  | .str _ s => [(utf8 s).length]
  | .bytes _ b => [b.length]
  | _ => []

def lengths : RuntimeValue D → List ℕ
  | .leaf l => l.lengths
  | .enum c _ _ => [(utf8 c).length]
  | .array a _ =>
    let dtype := np.normalizedDtype a.dtype
    [(utf8 (String.ofList (shapeChars a.shape))).length, (utf8 (np.str dtype)).length,
      (utf8 (np.descr dtype)).length,
      (utf8 (String.ofList (Nat.toDigits 10 (np.itemsize dtype)))).length,
      (utf8 (String.ofList (Nat.toDigits 10 (np.alignment dtype)))).length,
      (a.normalizedData np).length]
  | .objectArray shape _ _ => [(utf8 (String.ofList (shapeChars shape))).length]
  | .dataclass c f =>
    (utf8 c).length :: (keptFields f).length :: (keptFields f).map fun field => (utf8 field.1).length
  | .mapping i => [(keptItems i).length]
  | .sequence _ l => [l.length]
  | .set _ l => [l.length]

/-- The digest of a value; a length that does not fit its eight bytes raises. -/
def runtimeValueDigest (v : RuntimeValue D) : Option Bytes :=
  if ∀ part ∈ parts v, ∀ length ∈ lengths np part, length < 256 ^ 8 then
    some (sha (hashInput sha np v))
  else none

end Encoding

section Lists

variable {D : Type} {sha : Bytes → Bytes} {np : DTypes D}

def itemInput (sha : Bytes → Bytes) (np : DTypes D) (item : RuntimeValue D × RuntimeValue D) :
    Bytes :=
  sha (hashInput sha np item.1) ++ sha (hashInput sha np item.2)

theorem item_digests_eq : ∀ i : List (RuntimeValue D × RuntimeValue D),
    itemDigests sha np i = (keptItems i).map fun item => sha (itemInput sha np item)
  | [] => by
    unfold itemDigests
    rfl
  | (k, v) :: rest => by
    unfold itemDigests
    by_cases kept : keyKept k = true
    · rw [if_pos kept, item_digests_eq rest]
      simp [keptItems, itemInput, kept]
    · rw [if_neg kept, item_digests_eq rest]
      simp [keptItems, kept]

theorem member_digests_eq : ∀ l : List (RuntimeValue D),
    memberDigests sha np l = l.map fun v => sha (hashInput sha np v)
  | [] => by
    unfold memberDigests
    rfl
  | v :: rest => by
    unfold memberDigests
    rw [member_digests_eq rest, List.map_cons]

theorem field_bytes_eq : ∀ f : List (String × RuntimeValue D),
    fieldBytes sha np f =
      (keptFields f).flatMap fun field => text field.1 ++ sha (hashInput sha np field.2)
  | [] => by
    unfold fieldBytes
    rfl
  | (n, v) :: rest => by
    unfold fieldBytes
    by_cases kept : isReplayAuthoritativeKey n = true
    · rw [if_pos kept, field_bytes_eq rest]
      simp [keptFields, kept]
    · rw [if_neg kept, field_bytes_eq rest]
      simp [keptFields, kept]

theorem item_smaller {i : List (RuntimeValue D × RuntimeValue D)}
    {item : RuntimeValue D × RuntimeValue D} (h : item ∈ keptItems i) :
    sizeOf item.1 < sizeOf i ∧ sizeOf item.2 < sizeOf i := by
  have smaller := List.sizeOf_lt_of_mem (List.mem_of_mem_filter h)
  have pair := Prod.mk.sizeOf_spec item.1 item.2
  rw [Prod.mk.eta] at pair
  omega

theorem field_smaller {f : List (String × RuntimeValue D)} {field : String × RuntimeValue D}
    (h : field ∈ keptFields f) : sizeOf field.2 < sizeOf f := by
  have smaller := List.sizeOf_lt_of_mem (List.mem_of_mem_filter h)
  have pair := Prod.mk.sizeOf_spec field.1 field.2
  rw [Prod.mk.eta] at pair
  omega

theorem self_mem_parts (v : RuntimeValue D) : v ∈ parts v := by
  cases v <;> unfold parts <;> exact List.mem_cons_self

theorem item_parts_mem : ∀ {i : List (RuntimeValue D × RuntimeValue D)}, ∀ item ∈ keptItems i,
    ∀ part, part ∈ parts item.1 ∨ part ∈ parts item.2 → part ∈ itemParts i
  | (k, v) :: rest, item, listed, part, found => by
    obtain ⟨member, kept⟩ := List.mem_filter.mp listed
    unfold itemParts
    rcases List.mem_cons.mp member with rfl | later
    · rw [if_pos kept]
      rcases found with first | second
      · exact List.mem_append_left _ first
      · exact List.mem_append_right _ (List.mem_append_left _ second)
    · have inner := item_parts_mem item (List.mem_filter.mpr ⟨later, kept⟩) part found
      split
      · exact List.mem_append_right _ (List.mem_append_right _ inner)
      · exact inner

theorem field_parts_mem : ∀ {f : List (String × RuntimeValue D)}, ∀ field ∈ keptFields f,
    ∀ part ∈ parts field.2, part ∈ fieldParts f
  | (n, v) :: rest, field, listed, part, found => by
    obtain ⟨member, kept⟩ := List.mem_filter.mp listed
    unfold fieldParts
    rcases List.mem_cons.mp member with rfl | later
    · rw [if_pos kept]
      exact List.mem_append_left _ found
    · have inner := field_parts_mem field (List.mem_filter.mpr ⟨later, kept⟩) part found
      split
      · exact List.mem_append_right _ inner
      · exact inner

theorem member_parts_mem : ∀ {l : List (RuntimeValue D)}, ∀ v ∈ l, ∀ part ∈ parts v,
    part ∈ memberParts l
  | u :: rest, v, listed, part, found => by
    unfold memberParts
    rcases List.mem_cons.mp listed with rfl | later
    · exact List.mem_append_left _ found
    · exact List.mem_append_right _ (member_parts_mem v later part found)

theorem sorted_digests_perm {l l' : List Bytes} (sizes : ∀ b ∈ l, b.length = 32)
    (sizes' : ∀ b ∈ l', b.length = 32) (fits : l.length < 256 ^ 8) (fits' : l'.length < 256 ^ 8)
    (h : sortedDigests l = sortedDigests l') : l.Perm l' := by
  unfold sortedDigests at h
  obtain ⟨counts, blocks⟩ := List.append_inj h (by rw [to_bytes_length, to_bytes_length])
  have count := to_bytes_inj fits fits' counts
  have first := List.perm_insertionSort (· ≤ ·) l
  have second := List.perm_insertionSort (· ≤ ·) l'
  have same := blocks_inj (fun b listed => sizes b (first.mem_iff.mp listed))
    (fun b listed => sizes' b (second.mem_iff.mp listed))
    (by rw [first.length_eq, second.length_eq, count]) blocks
  exact (first.symm.trans (same ▸ List.Perm.refl _)).trans second

theorem sorted_digests_of_perm {l l' : List Bytes} (h : l.Perm l') :
    sortedDigests l = sortedDigests l' := by
  have sorted : l.insertionSort (· ≤ ·) = l'.insertionSort (· ≤ ·) := by
    refine List.Perm.eq_of_pairwise (fun a b _ _ => antisymm) (List.pairwise_insertionSort _ l)
      (List.pairwise_insertionSort _ l') ?_
    exact (List.perm_insertionSort _ l).trans (h.trans (List.perm_insertionSort _ l').symm)
  unfold sortedDigests
  rw [sorted, h.length_eq]

theorem matching_imp {α β : Type*} {R R' : α → β → Prop} : ∀ {l : List α} {p : List β},
    List.Forall₂ R l p → (∀ a ∈ l, ∀ b ∈ p, R a b → R' a b) → List.Forall₂ R' l p
  | [], [], .nil, _ => .nil
  | a :: _, b :: _, .cons first rest, kept =>
    .cons (kept a List.mem_cons_self b List.mem_cons_self first) (matching_imp rest
      fun c c_mem d d_mem => kept c (List.mem_cons_of_mem a c_mem) d (List.mem_cons_of_mem b d_mem))

theorem exists_matching {α : Type*} {f : α → Bytes} {l l' : List α}
    (h : (l.map f).Perm (l'.map f)) : ∃ p, l'.Perm p ∧ List.Forall₂ (fun a b => f a = f b) l p := by
  have images : List.Forall₂ (fun b a => b = f a) (l'.map f) l' :=
    List.forall₂_map_left_iff.mpr (List.forall₂_same.mpr fun _ _ => rfl)
  obtain ⟨p, matched, order⟩ := List.perm_comp_forall₂ h images
  exact ⟨p, order.symm, List.forall₂_map_left_iff.mp matched⟩

theorem map_eq_of_matching {α : Type*} {f : α → Bytes} {l p : List α}
    (matched : List.Forall₂ (fun a b => f a = f b) l p) : l.map f = p.map f := by
  rw [← List.forall₂_eq_eq_eq]
  exact List.forall₂_map_left_iff.mpr (List.forall₂_map_right_iff.mpr matched)

theorem map_perm_of_matching {α : Type*} {f : α → Bytes} {l l' p : List α} (order : l'.Perm p)
    (matched : List.Forall₂ (fun a b => f a = f b) l p) : (l.map f).Perm (l'.map f) := by
  rw [map_eq_of_matching matched]
  exact (order.map f).symm

end Lists

end Metroflow.Replay
