import SlidePress.Proofs.Inline.Authored
import SlidePress.Proofs.Inline.WellFormed

/-!
# `SlidePress.Proofs.Inline.Escape` — escaping as an encoding

Text that is escaped can stand anywhere in markup, and can be read back from it. The three replacements run one after
the other over what the ones before have written, so this depends on their order: the ampersand has to be replaced
first. Then they do what one replacement of all three would do, character by character (`escape_eq_flatMap`), and all
the rest follows from that: an escaped text is characters and entities only (`verbatim_escape`), and who reads its
entities as characters has the text again (`decoded_escape`), also where the text was written with entities itself.
-/

namespace SlidePress.Inline

/-- In characters and entities there is no angle bracket. -/
theorem Verbatim.angle_not_mem {text : List Char} (h : Verbatim text) : '<' ∉ text ∧ '>' ∉ text := by
  have none_ : ∀ entity ∈ entities, '<' ∉ entity ∧ '>' ∉ entity := by decide
  induction h with
  | nil => exact ⟨List.not_mem_nil, List.not_mem_nil⟩
  | @char c rest other _ ih =>
      have first : '<' ≠ c ∧ '>' ≠ c := by
        constructor <;> (rintro rfl; exact other (by decide))
      exact ⟨List.not_mem_cons_of_ne_of_not_mem first.1 ih.1, List.not_mem_cons_of_ne_of_not_mem first.2 ih.2⟩
  | @entity entity rest mem _ ih =>
      rw [List.mem_append, List.mem_append]
      exact ⟨fun inside => inside.elim (none_ entity mem).1 ih.1, fun inside => inside.elim (none_ entity mem).2 ih.2⟩

/-- **A faithful encoding** of text in markup. -/
structure FaithfulEncoding (encode : String → String) : Prop where
  /-- Each character is replaced by itself, all of them at once. -/
  charwise : ∀ text, (encode text).toList = text.toList.flatMap escapeChar
  /-- There is no angle bracket. -/
  noAngle : ∀ text, '<' ∉ (encode text).toList ∧ '>' ∉ (encode text).toList
  /-- Every ampersand begins an entity. -/
  ampersands : ∀ text, Introduces '&' entities (encode text).toList
  /-- Texts that are put together are encoded together. -/
  append : ∀ a b, encode (a ++ b) = encode a ++ encode b
  /-- Entities are read as characters in one pass, and this gives the text back. -/
  decodes : ∀ text, String.ofList (decoded (encode text).toList) = text
  /-- Different texts stay different. -/
  injective : Function.Injective encode

/-- **Escaping is a faithful encoding**, also of texts that have entities in them already. -/
theorem escapeText_faithful : FaithfulEncoding escapeText := by
  have chars : ∀ text, (escapeText text).toList = escape text.toList := fun _ => String.toList_ofList
  have verbatim : ∀ text, Verbatim (escapeText text).toList := by
    intro text
    rw [chars]
    exact verbatim_escape text.toList
  have decodes : ∀ text, String.ofList (decoded (escapeText text).toList) = text := by
    intro text
    rw [chars, decoded_escape, String.ofList_toList]
  refine ⟨?_, ?_, ?_, ?_, decodes, ?_⟩
  · intro text
    rw [chars, escape_eq_flatMap]
  · intro text
    exact (verbatim text).angle_not_mem
  · intro text
    exact ((verbatim text).signsUsed []).amp
  · intro a b
    rw [← String.toList_inj, String.toList_append, chars, chars, chars, String.toList_append, escape_append]
  · intro a b same
    rw [← decodes a, same, decodes b]

end SlidePress.Inline
