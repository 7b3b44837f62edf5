import LogicalNet.Proofs.Address.RoundTrip
import LogicalNet.Proofs.Policy.MatchMeaning

/-!
# Addresses and their written forms

A text may spell an address in many ways, with blanks around the slash, with zeros before
the mask or with long runs of zeros.  Whatever the spelling, the address that is read has
a mask that fits its family, and its own text reads as the same address.  The family shows
in every spelling by its colons, so that a rule may go by the colons of its remote address.
-/

namespace LogicalNet
namespace NetAddress

variable {s : String} {a : NetAddress}

/-- An address has colons in its own text too, exactly if it is of version six. -/
theorem isV6_iff_colon_mem_text (h : a.Fits) : a.isV6 = true ↔ ':' ∈ a.text.toList :=
  isV6_iff_of_ofChars? (ofText?_text h)

/-- Two texts spell one address exactly if the addresses read from them are written alike. -/
theorem text_eq_text_iff {t : String} {b : NetAddress} (ha : ofText? s = some a)
    (hb : ofText? t = some b) : a.text = b.text ↔ a = b := by
  constructor
  · intro htext
    have hread := ofText?_text (fits_of_ofText? ha)
    rw [htext, ofText?_text (fits_of_ofText? hb)] at hread
    exact (Option.some.inj hread).symm
  · rintro rfl
    rfl

/-- An address is read back from its text exactly if its mask fits its family.  What is read from
any text has such a mask, is of version six exactly if the text has a colon, and is read again
from its own text, which has colons exactly if the text that was read has.  So the family that a
rule takes from the colons of its remote address is that of the address. -/
theorem survives_its_text :
    (∀ a : NetAddress, ofText? a.text = if a.Fits then some a else none) ∧
    (∀ s a, ofText? s = some a → a.Fits ∧ (a.isV6 = true ↔ ':' ∈ s.toList) ∧
      ofText? a.text = some a ∧ (':' ∈ a.text.toList ↔ ':' ∈ s.toList)) ∧
    (∀ s t a b, ofText? s = some a → ofText? t = some b → (a.text = b.text ↔ a = b)) ∧
    ∀ (r : SecurityRule) a, ofText? r.remoteText = some a →
      a.isV6 = (r.addressFamily == .ip6) := by
  refine ⟨ofText?_text_eq, ?read, fun _ _ _ _ => text_eq_text_iff,
    fun _ _ => SecurityRule.isV6_eq_addressFamily⟩
  case read =>
    intro s a h
    have hfits := fits_of_ofText? h
    have hcolon : a.isV6 = true ↔ ':' ∈ s.toList := isV6_iff_of_ofChars? h
    exact ⟨hfits, hcolon, ofText?_text hfits, (isV6_iff_colon_mem_text hfits).symm.trans hcolon⟩

/-- An address of version four that is embedded in one of version six keeps its dots. -/
example : (ofText? " ::FFFF:0a00:1 / 096 ").map text = some "::ffff:10.0.0.1/96" := by
  decide +kernel

end NetAddress
end LogicalNet
