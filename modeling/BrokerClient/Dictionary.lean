/-!
# Dictionaries in the order of their keys

A dictionary from texts to values, with its keys in rising order, each once, so that it is printed and sent in one order
only. The order is part of the type: a bound is the index of `Entries`, and each key is the bound of what is behind it.
So a value may hold dictionaries of values (`FieldValue.table`), which a list with a proof beside it would not allow.
Keys are compared character by character, which is also the order of their bytes.
-/

namespace BrokerClient

/-- A key comes after a bound, if there is one. -/
def Follows : Option String → String → Prop
  | none, _ => True
  | some bound, key => bound < key

theorem Follows.of_lt {bound key : String} (h : bound < key) : Follows (some bound) key := h

theorem Follows.of_not_lt {bound key : String} (hne : bound ≠ key) (h : ¬key < bound) : Follows (some bound) key :=
  .of_lt (Std.lt_of_le_of_ne (String.not_lt.1 h) hne)

theorem Follows.trans {bound : Option String} {k key : String} (h : Follows bound k) (hlt : k < key) :
    Follows bound key := by
  cases bound with
  | none => trivial
  | some b => exact String.lt_trans h hlt

/-- Entries in the rising order of their keys, which come after a bound. -/
inductive Entries (α : Type) : Option String → Type
  | nil {bound : Option String} : Entries α bound
  | cons {bound : Option String} (key : String) (follows : Follows bound key) (value : α)
    (rest : Entries α (some key)) : Entries α bound

namespace Entries

variable {α : Type} {bound : Option String}

instance : Inhabited (Entries α bound) := ⟨nil⟩

def toList {bound : Option String} : Entries α bound → List (String × α)
  | nil => []
  | cons key _ value rest => (key, value) :: rest.toList

def get? {bound : Option String} : Entries α bound → String → Option α
  | nil, _ => none
  | cons k _ v rest, key => if k = key then some v else rest.get? key

/-- Sets a key, in the place of an earlier value or where the key belongs in the order. -/
def insert {bound : Option String} : Entries α bound → (key : String) → Follows bound key → α → Entries α bound
  | nil, key, h, value => cons key h value nil
  | cons k hk v rest, key, h, value =>
    if heq : k = key then cons k hk value rest
    else if hlt : key < k then cons key h value (cons k (.of_lt hlt) v rest)
    else cons k hk v (rest.insert key (.of_not_lt heq hlt) value)

/-- The same entries after a smaller bound. -/
def widen {k : String} : Entries α (some k) → Follows bound k → Entries α bound
  | nil, _ => nil
  | cons key hkey value rest, h => cons key (h.trans hkey) value rest

/-- Removes a key. -/
def erase {bound : Option String} : Entries α bound → String → Entries α bound
  | nil, _ => nil
  | cons k hk v rest, key => if k = key then rest.widen hk else cons k hk v (rest.erase key)

@[simp] theorem get?_nil (key : String) : (nil : Entries α bound).get? key = none := rfl

@[simp] theorem get?_insert_self (t : Entries α bound) (key : String) (h : Follows bound key) (value : α) :
    (t.insert key h value).get? key = some value := by
  induction t with
  | nil => simp [insert, get?]
  | cons k hk v rest ih =>
    by_cases heq : k = key
    · simp [insert, get?, heq]
    · by_cases hlt : key < k
      · simp [insert, get?, heq, hlt]
      · simpa [insert, get?, heq, hlt] using ih _

theorem get?_insert_of_ne (t : Entries α bound) {key other : String} (hne : key ≠ other) (h : Follows bound key)
    (value : α) : (t.insert key h value).get? other = t.get? other := by
  induction t with
  | nil => simp [insert, get?, hne]
  | cons k hk v rest ih =>
    by_cases heq : k = key
    · simp [insert, get?, heq, hne]
    · by_cases hlt : key < k
      · simp [insert, get?, heq, hlt, hne]
      · rw [insert, dif_neg heq, dif_neg hlt, get?, get?, ih]

theorem follows_of_mem {t : Entries α bound} {e : String × α} (h : e ∈ t.toList) : Follows bound e.1 := by
  induction t with
  | nil => cases h
  | cons k hk v rest ih =>
    rcases List.mem_cons.1 h with rfl | h
    · exact hk
    · exact hk.trans (ih h)

/-- The keys are in rising order, each once. -/
theorem rising_toList (t : Entries α bound) : t.toList.Pairwise fun e f => e.1 < f.1 := by
  induction t with
  | nil => exact .nil
  | cons k hk v rest ih => exact .cons (fun _ he => follows_of_mem he) ih

/-- What is found under a key is one of the entries. -/
theorem mem_of_get? {t : Entries α bound} {key : String} {value : α} (h : t.get? key = some value) :
    (key, value) ∈ t.toList := by
  induction t with
  | nil => cases h
  | cons k hk v rest ih =>
    rw [get?] at h
    split at h
    · rename_i heq
      obtain rfl := Option.some.inj h
      exact heq ▸ List.mem_cons_self ..
    · exact List.mem_cons_of_mem _ (ih h)

/-- A key up to the bound is not there. -/
theorem get?_eq_none {bound key : String} {t : Entries α (some bound)} (h : key ≤ bound) : t.get? key = none := by
  cases hfound : t.get? key with
  | none => rfl
  | some value =>
    have hlt : bound < key := follows_of_mem (mem_of_get? hfound)
    exact absurd hlt (String.not_lt.2 h)

/-- A key before all others is not there. -/
theorem get?_cons_of_lt {k key : String} {hk : Follows bound k} {v : α} {rest : Entries α (some k)} (h : key < k) :
    (cons k hk v rest).get? key = none := by
  rw [get?, if_neg (String.ne_of_lt h).symm, get?_eq_none (Std.le_of_lt h)]

/-- Entries are what they have under their keys. -/
theorem ext {t u : Entries α bound} (h : ∀ key, t.get? key = u.get? key) : t = u := by
  induction t with
  | nil =>
    cases u with
    | nil => rfl
    | cons k hk v rest => simpa [get?] using h k
  | cons k hk v rest ih =>
    cases u with
    | nil => simpa [get?] using h k
    | cons k' hk' v' rest' =>
      have hkey : k = k' := by
        rcases Std.lt_trichotomy k k' with hlt | heq | hgt
        · have hk := h k
          rw [get?_cons_of_lt hlt, get?, if_pos rfl] at hk
          cases hk
        · exact heq
        · have hk := h k'
          rw [get?_cons_of_lt hgt, get?, if_pos rfl] at hk
          cases hk
      subst hkey
      have hvalue : v = v' := by simpa [get?] using h k
      subst hvalue
      rw [ih fun key => ?_]
      by_cases hne : k = key
      · rw [get?_eq_none (hne ▸ Std.le_refl k), get?_eq_none (hne ▸ Std.le_refl k)]
      · simpa [get?, hne] using h key

end Entries

/-- A dictionary: keys in rising order, each with its value. -/
abbrev Dictionary (α : Type) := Entries α none

namespace Dictionary

variable {α : Type}

/-- Sets a key, in the place of an earlier value or where the key belongs in the order. -/
def insert (t : Dictionary α) (key : String) (value : α) : Dictionary α := Entries.insert t key trivial value

/-- The dictionary of some entries, where a later entry replaces an earlier one of the same key. -/
def ofEntries (entries : List (String × α)) : Dictionary α :=
  entries.foldl (fun t e => insert t e.1 e.2) .nil

@[simp] theorem get?_insert_self (t : Dictionary α) (key : String) (value : α) :
    (t.insert key value).get? key = some value := Entries.get?_insert_self t key trivial value

theorem get?_insert_of_ne (t : Dictionary α) {key other : String} (h : key ≠ other) (value : α) :
    (t.insert key value).get? other = t.get? other := Entries.get?_insert_of_ne t h trivial value

end Dictionary
end BrokerClient
