import Mathlib.Algebra.Group.Nat.Defs
import BrokerClient.Proofs.Json.Shapes
import BrokerClient.Scripted.Codec

/-!
# Payloads with a JSON form read back

A text, bytes as the list of their numbers, and an order with its two fields are each read back from their JSON
form. An order's number must be one of 64 bits, as it is in an order that was read.
-/

namespace BrokerClient

open Json Json.Parser

/-- The payload is read back from its JSON form. -/
def JsonPayload.Restores {α : Type} [JsonPayload α] (a : α) : Prop :=
  ∀ bound, Reads bound (JsonPayload.read maxDepth) (valueForm (JsonPayload.toValue a)) a

theorem restores_string (s : String) : JsonPayload.Restores s := fun _ => reads_text s "a string"

theorem opens_string (s : String) : Opens (valueForm (.string s)) :=
  ⟨0x22, _, ofString_renderString s, by decide, by decide, by decide⟩

theorem opens_digits (n : Nat) : Opens (digits n) := by
  obtain ⟨b, behind, heq, hdigit⟩ := digits_head n
  refine ⟨b, behind, heq, isSpace_digit hdigit, ?_, ?_⟩
  · intro hc
    rw [hc] at hdigit
    exact absurd hdigit (by decide)
  · intro hc
    rw [hc] at hdigit
    exact absurd hdigit (by decide)

theorem restores_bytes (bytes : Bytes) : JsonPayload.Restores bytes := by
  intro bound
  have hform : valueForm (JsonPayload.toValue bytes) = listForm (bytes.map fun b => digits b.toNat) := by
    refine (valueForm_array _).trans ?_
    rw [List.map_map]
    exact congrArg listForm (List.map_congr_left fun b _ => ofString_natural b.toNat)
  rw [hform]
  refine reads_list (by decide) (fun b _ => ?_) fun b _ => opens_digits b.toNat
  have hread : Reads bound (naturalBelow 256 "u8") (digits b.toNat) b.toNat :=
    reads_naturalBelow b.toNat_lt (by decide) "u8"
  have hmap := hread.map fun n => n.toUInt8
  rwa [show b.toNat.toUInt8 = b from UInt8.ofNat_toNat] at hmap

namespace Scripted.Order

def idMember (o : Order) : Member Order where
  field := .of "id" (fun _ => naturalBelow (Nat.pow 2 64) "u64") fun n o => { o with id := n }
  value := .number (.integer o.id)
  change p := { p with id := o.id }

def itemsMember (o : Order) : Member Order where
  field := .of "items" (list fun _ => text) fun items o => { o with items }
  value := .array (o.items.map .string)
  change p := { p with items := o.items }

theorem reads_id {bound : Nat} {o : Order} (hid : o.id < 2 ^ 64) (depth : Nat) :
    Reads bound (o.idMember.field.change depth) (valueForm o.idMember.value) o.idMember.change := by
  have hread : Reads bound (naturalBelow (Nat.pow 2 64) "u64") (digits o.id) o.id :=
    reads_naturalBelow hid (Nat.le_refl _) "u64"
  rw [← ofString_natural] at hread
  exact hread.map fun n (p : Order) => { p with id := n }

theorem reads_items {bound depth : Nat} (o : Order) (hdepth : 1 < depth) :
    Reads bound (o.itemsMember.field.change depth) (valueForm o.itemsMember.value) o.itemsMember.change := by
  have hread : Reads bound (list (fun _ => text) depth) (listForm (o.items.map fun s => valueForm (.string s))) o.items :=
    reads_list hdepth (fun s _ => reads_text s "a string") fun s _ => opens_string s
  have hform : valueForm o.itemsMember.value = listForm (o.items.map fun s => valueForm (.string s)) := by
    refine (valueForm_array _).trans ?_
    rw [List.map_map]
    rfl
  rw [hform]
  exact hread.map fun items (p : Order) => { p with items }

theorem restores_order {o : Order} (hid : o.id < 2 ^ 64) : JsonPayload.Restores o := by
  intro bound
  have hform : valueForm (JsonPayload.toValue o) = recordForm [o.idMember, o.itemsMember] :=
    valueForm_object [o.idMember, o.itemsMember]
  have hboth {β : Type} {P : β → Prop} {a b : β} (ha : P a) (hb : P b) : ∀ m ∈ [a, b], P m :=
    List.forall_mem_cons.2 ⟨ha, List.forall_mem_cons.2 ⟨hb, nofun⟩⟩
  have hnodup : ["id", "items"].Nodup := by decide
  have hnames : ∀ f ∈ shape.fields, f.name ∈ ["id", "items"] :=
    hboth (List.mem_cons_self ..) (List.mem_cons_of_mem _ (List.mem_cons_self ..))
  have hrecord : Reads bound (Parser.record shape maxDepth) (recordForm [o.idMember, o.itemsMember]) o :=
    reads_record (by decide) (hboth rfl rfl) (hboth (reads_id hid _) (reads_items o (by decide))) hnodup hnames
  rw [hform]
  exact hrecord

end Scripted.Order
end BrokerClient
