import BrokerClient.Encoding.Selection

/-!
# What a requester gets

A header that is one plain token is a list of one preference of the full weight (`parse_single`), so a requester that
names one of the encodings gets it (`negotiate_token`).
-/

namespace BrokerClient

theorem Weight.one_pos : 0 < Weight.one := by decide +kernel

namespace Preference

theorem parseEntry_token {entry : List Char} (hsplit : (Text.splitChars ';' entry).map Text.trimChars = [entry])
    (htoken : isToken entry = true) :
    parseEntry entry = .ok ⟨Text.Ascii.lower (String.ofList entry), Weight.one⟩ := by
  unfold parseEntry
  rw [hsplit]
  simp only [htoken, if_true]
  rfl

end Preference

namespace Accept

open Preference

theorem parse_single {header : String} {entry : List Char} {p : Preference} (hentries : entries header = [entry])
    (hp : parseEntry entry = .ok p) (hpos : 0 < p.weight) : parse header = .ok ⟨header, [p], []⟩ := by
  have hlisted : (entries header).mapM parseEntry = .ok [p] := by
    rw [hentries, List.mapM_cons, hp]
    rfl
  have hranked : rank ([p].foldl collect []) = [p] := List.mergeSort_singleton p
  have hnonzero : (p.weight == 0) = false := beq_eq_false_iff_ne.2 (Nat.ne_of_gt hpos)
  unfold parse
  rw [hlisted]
  show Except.ok (Accept.mk header _ _) = _
  rw [hranked]
  simp [hpos, hnonzero]

/-- A requester that names one encoding gets it. -/
theorem negotiate_token (e : ContentEncoding) : negotiate (some e.token) ContentEncoding.all = .ok e := by
  have hentries : entries e.token = [e.token.toList] := by cases e <;> decide +kernel
  have hsplit : (Text.splitChars ';' e.token.toList).map Text.trimChars = [e.token.toList] := by
    cases e <;> decide +kernel
  have htoken : isToken e.token.toList = true := by cases e <;> decide +kernel
  have hlower : Text.Ascii.lower (String.ofList e.token.toList) = e.token := by cases e <;> decide +kernel
  have hchoose : choose ⟨e.token, [⟨e.token, Weight.one⟩], []⟩ ContentEncoding.all ⟨e.token, Weight.one⟩ = some e := by
    cases e <;> decide +kernel
  have hparse : parse e.token = .ok ⟨e.token, [⟨e.token, Weight.one⟩], []⟩ := by
    refine parse_single hentries ?_ Weight.one_pos
    rw [parseEntry_token hsplit htoken, hlower]
  show (parse e.token).bind (fun a => a.select ContentEncoding.all) = _
  rw [hparse]
  show select _ _ = _
  unfold select
  simp only [List.findSome?_cons, hchoose]

end Accept
end BrokerClient
