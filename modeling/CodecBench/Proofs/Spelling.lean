import CodecBench.Proofs.Reading
/-!
Texts are read from all their spellings. Whatever stands for a character, the reader of a text adds the bytes of that
character to those it has (`read_spelled`), so that in the end it has the bytes of the text. Where a text is passed
over, its escapes need not stand for characters (`passes_skipText`).
-/

namespace CodecBench
namespace Reader

theorem hexValue?_of_isHexDigit {n : Nat} {b : UInt8} (h : IsHexDigit n b) : hexValue? b = some n := by
  have hall : ∀ n < 16, hexValue? (ascii n.digitChar) = some n ∧ hexValue? (ascii n.digitChar.toUpper) = some n := by
    decide
  obtain ⟨hn, rfl | rfl⟩ := h
  · exact (hall n hn).1
  · exact (hall n hn).2

theorem read_hexadecimal {n : Nat} {digits : Bytes} (h : IsHex n digits) (s : Bytes) :
    hexadecimal.read (digits ++ s) = .ok (n, s) := by
  cases h with
  | digits ha hb hc hd =>
    simp only [hexadecimal, List.cons_append, List.nil_append, read_bind, read_next_cons, hexValue?_of_isHexDigit ha,
      hexValue?_of_isHexDigit hb, hexValue?_of_isHexDigit hc, hexValue?_of_isHexDigit hd]
    rfl

theorem not_surrogate (c : Char) : isTrailing c.toNat = false ∧ isLeading c.toNat = false := by
  have h : c.toNat < 0xD800 ∨ 0xDFFF < c.toNat ∧ c.toNat < 0x110000 := c.valid
  constructor
  · simp [isTrailing]
    omega
  · simp [isLeading]
    omega

theorem read_numbered {c : Char} {digits : Bytes} (h : IsHex c.toNat digits) (s : Bytes) :
    numbered.read (digits ++ s) = .ok (c, s) := by
  rw [numbered, read_bind, read_hexadecimal h]
  simp [not_surrogate, read_pure]

theorem read_numbered_pair {c : Char} {high low : Nat} {digits digits' : Bytes} (hh : high < 0x400) (hl : low < 0x400)
    (hc : c.toNat = 0x10000 + 0x400 * high + low) (h : IsHex (0xD800 + high) digits)
    (h' : IsHex (0xDC00 + low) digits') (s : Bytes) :
    numbered.read (digits ++ ascii '\\' :: ascii 'u' :: digits' ++ s) = .ok (c, s) := by
  have hn : isTrailing (0xD800 + high) = false ∧ isLeading (0xD800 + high) = true := by
    simp [isTrailing, isLeading]
    omega
  have hm : isTrailing (0xDC00 + low) = true := by
    simp [isTrailing]
    omega
  have hcombine : combine (0xD800 + high) (0xDC00 + low) = c := by
    have hn : 0x10000 + (0xD800 + high - 0xD800) * 0x400 + (0xDC00 + low - 0xDC00) = c.toNat := by
      omega
    rw [combine, hn, Char.ofNat_toNat]
  rw [List.append_assoc, numbered, read_bind, read_hexadecimal h]
  simp [hn, hm, read_bind, word, read_next_cons, read_pure, read_hexadecimal h', hcombine]

theorem unescape?_of_mem {p : Char × Char} (h : p ∈ shortEscapes) :
    unescape? (ascii p.2) = some (ascii p.1) ∧ String.utf8EncodeChar p.1 = [ascii p.1] := by
  have hall : ∀ p ∈ shortEscapes,
      unescape? (ascii p.2) = some (ascii p.1) ∧ String.utf8EncodeChar p.1 = [ascii p.1] := by
    decide
  exact hall p h

theorem le_of_mem_utf8EncodeChar {c : Char} (hc : 32 ≤ c.toNat) (hq : c ≠ '"') (hb : c ≠ '\\') :
    ∀ b ∈ String.utf8EncodeChar c, 32 ≤ b ∧ b ≠ ascii '"' ∧ b ≠ ascii '\\' := by
  have hq' : c.val.toNat ≠ 34 := fun h => hq (Char.toNat_inj.1 h)
  have hb' : c.val.toNat ≠ 92 := fun h => hb (Char.toNat_inj.1 h)
  have hc' : 32 ≤ c.val.toNat := hc
  have hquote : (ascii '"').toNat = 34 := rfl
  have hbackslash : (ascii '\\').toNat = 92 := rfl
  have hlt := Char.toNat_val_lt c
  fun_cases String.utf8EncodeChar c <;>
    simp only [List.mem_cons, List.not_mem_nil, or_false, UInt8.le_iff_toNat_le, ne_eq,
      ← UInt8.toNat_inj, UInt8.toNat_ofNat', hquote, hbackslash, UInt8.reduceToNat] <;> omega

def spelling (escape : Reader Bytes) (bytes : Bytes) : Reader Bytes :=
  iterate (fun _ => false) (textStep escape) bytes

section Spelling
variable {esc : Reader Bytes} {bytes : Bytes}

theorem read_spelling_cons (b : UInt8) (s : Bytes) : (spelling esc bytes).read (b :: s) =
    match (textStep esc bytes b).read s with
    | .error flaw => .error flaw
    | .ok (none, rest) => .ok (bytes, rest)
    | .ok (some bytes, rest) => (spelling esc bytes).read rest := by
  change loop _ _ _ _ = _
  rw [loop_eq, List.dropWhile_cons_of_neg (by simp)]
  simp only
  cases (textStep esc bytes b).read s with
  | error flaw => rfl
  | ok next =>
    obtain ⟨next, rest⟩ := next
    cases next <;> rfl

theorem read_spelling_close (s : Bytes) : (spelling esc bytes).read (ascii '"' :: s) = .ok (bytes, s) := by
  rw [read_spelling_cons]
  rfl

theorem read_spelling_literal {bs : Bytes} (h : ∀ b ∈ bs, 32 ≤ b ∧ b ≠ ascii '"' ∧ b ≠ ascii '\\') (s : Bytes) :
    (spelling esc bytes).read (bs ++ s) = (spelling esc (bs.reverse ++ bytes)).read s := by
  induction bs generalizing bytes with
  | nil => rfl
  | cons b bs ih =>
    obtain ⟨hb, hq, hs⟩ := h b List.mem_cons_self
    have hstep : textStep esc bytes b = pure (some (b :: bytes)) := by
      rw [textStep, if_neg hq, if_neg hs, if_neg (UInt8.not_lt.2 hb)]
    rw [List.cons_append, read_spelling_cons, hstep]
    simp only [read_pure]
    rw [ih fun b hb => h b (List.mem_cons_of_mem _ hb)]
    simp

theorem read_spelling_escape (w bs : Bytes) {s : Bytes} (h : esc.read (w ++ s) = .ok (bs, s)) :
    (spelling esc bytes).read (ascii '\\' :: w ++ s) = (spelling esc (bs.reverse ++ bytes)).read s := by
  rw [List.cons_append, read_spelling_cons]
  have hstep : textStep esc bytes (ascii '\\') = esc >>= fun bs => pure (some (bs.reverse ++ bytes)) := rfl
  rw [hstep, read_bind, h]
  rfl

end Spelling

theorem read_escape_short {p : Char × Char} (h : p ∈ shortEscapes) (s : Bytes) :
    escape.read ([ascii p.2] ++ s) = .ok (String.utf8EncodeChar p.1, s) := by
  obtain ⟨hu, he⟩ := unescape?_of_mem h
  simp [escape, read_bind, read_next_cons, hu, he, read_pure]

theorem read_escape_numbered {c : Char} {w s : Bytes} (h : numbered.read (w ++ s) = .ok (c, s)) :
    escape.read (ascii 'u' :: w ++ s) = .ok (String.utf8EncodeChar c, s) := by
  have hu : unescape? (ascii 'u') = none := by decide
  simp only [escape, List.cons_append, read_bind, read_next_cons, hu, if_pos]
  change (numbered >>= fun c => pure (String.utf8EncodeChar c)).read (w ++ s) = _
  rw [read_bind, h]
  rfl

theorem read_spelled {c : Char} {w : Bytes} (h : SpellsChar c w) (bytes s : Bytes) :
    (spelling escape bytes).read (w ++ s) =
      (spelling escape ((String.utf8EncodeChar c).reverse ++ bytes)).read s := by
  cases h with
  | literal hc hq hb => exact read_spelling_literal (le_of_mem_utf8EncodeChar hc hq hb) s
  | short hp => exact read_spelling_escape _ _ (read_escape_short hp s)
  | numbered hd => exact read_spelling_escape _ _ (read_escape_numbered (read_numbered hd s))
  | pair hh hl hc hd hd' =>
    exact read_spelling_escape (ascii 'u' :: (_ ++ ascii '\\' :: ascii 'u' :: _)) _
      (read_escape_numbered (read_numbered_pair hh hl hc hd hd' s))

theorem read_spelled_all {cs : List Char} {parts : List Bytes} (h : List.Forall₂ SpellsChar cs parts)
    (bytes s : Bytes) : (spelling escape bytes).read (parts.flatten ++ s) =
      (spelling escape ((cs.flatMap String.utf8EncodeChar).reverse ++ bytes)).read s := by
  induction h generalizing bytes with
  | nil => rfl
  | cons hc _ ih => simp [read_spelled hc, ih]

theorem read_text {t : String} {parts : List Bytes} (h : List.Forall₂ SpellsChar t.toList parts) (s : Bytes) :
    text.read (parts.flatten ++ [ascii '"'] ++ s) = .ok (t, s) := by
  change (spelling escape [] >>= _).read _ = _
  rw [read_bind, List.append_assoc, read_spelled_all h, List.singleton_append, read_spelling_close]
  simp only [List.append_nil, List.reverse_reverse]
  have ht : String.fromUTF8? (t.toList.flatMap String.utf8EncodeChar).toByteArray = some t := fromUTF8?_utf8Bytes t
  rw [ht]
  rfl

theorem exists_read_part {p : Bytes} (h : IsPart p) (bytes s : Bytes) :
    ∃ bytes', (spelling skipEscape bytes).read (p ++ s) = (spelling skipEscape bytes').read s := by
  cases h with
  | literal hb hq hs => exact ⟨_, read_spelling_literal (by simpa using ⟨hb, hq, hs⟩) s⟩
  | @short c letter hp =>
    refine ⟨_, read_spelling_escape [ascii letter] [ascii c] ?_⟩
    simp only [skipEscape, List.cons_append, read_bind, read_next_cons, (unescape?_of_mem hp).1]
    rfl
  | numbered hd =>
    have hu : unescape? (ascii 'u') = none := by decide
    refine ⟨_, read_spelling_escape (_ :: _) [] ?_⟩
    simp only [skipEscape, List.cons_append, read_bind, read_next_cons, hu, if_pos, read_hexadecimal hd]
    rfl

theorem read_skipText {parts : List Bytes} (h : ∀ p ∈ parts, IsPart p) (s : Bytes) :
    skipText.read (parts.flatten ++ [ascii '"'] ++ s) = .ok ((), s) := by
  have hall : ∀ bytes, ∃ bytes',
      (spelling skipEscape bytes).read (parts.flatten ++ [ascii '"'] ++ s) = .ok (bytes', s) := by
    induction parts with
    | nil => exact fun bytes => ⟨bytes, read_spelling_close s⟩
    | cons p parts ih =>
      intro bytes
      obtain ⟨bytes₁, h₁⟩ := exists_read_part (h p List.mem_cons_self) bytes (parts.flatten ++ [ascii '"'] ++ s)
      obtain ⟨bytes₂, h₂⟩ := ih (fun q hq => h q (List.mem_cons_of_mem _ hq)) bytes₁
      exact ⟨bytes₂, by rw [← h₂, ← h₁]; simp⟩
  obtain ⟨bytes, hb⟩ := hall []
  change (spelling skipEscape [] >>= _).read _ = _
  rw [read_bind, hb]
  rfl

theorem startsWith_quote (bs : Bytes) (ts : List Token) :
    StartsWith (· = ascii '"') ((ascii '"' :: bs) :: ts) := ⟨_, bs, ts, rfl, by decide, rfl⟩

theorem passes_skipText {t : Token} (h : IsText t) {α : Type} {f : UInt8 → Reader α} {y : Reader α}
    (hf : f (ascii '"') = skipText >>= fun _ => y) : Passes (token >>= f) [t] y := by
  obtain ⟨parts, hp, rfl⟩ := h
  rw [List.cons_append]
  refine passes_token (by decide) fun s => ?_
  rw [hf, read_bind, read_skipText hp]

theorem passes_text {t : String} {spelled : Token} (h : SpellsText t spelled) {α : Type} {f : UInt8 → Reader α}
    {y : String → Reader α} (hf : f (ascii '"') = text >>= y) : Passes (token >>= f) [spelled] (y t) := by
  obtain ⟨parts, hp, rfl⟩ := h
  rw [List.cons_append]
  refine passes_token (by decide) fun s => ?_
  rw [hf, read_bind, read_text hp]

theorem startsWith_of_givesText {t : String} {v : List Token} (h : GivesText t v) :
    StartsWith (· = ascii '"') v := by
  obtain ⟨_, rfl, parts, -, rfl⟩ := h
  exact startsWith_quote _ _

theorem accepts_text {t : String} {v : List Token} (h : GivesText t v) : Accepts textValue v t where
  starts := (startsWith_of_givesText h).imp (by rintro b rfl; decide)
  leads := by
    obtain ⟨spelled, rfl, hs⟩ := h
    exact (passes_text (y := pure) hs (by rw [bind_pure]; rfl)).leads

theorem read_word (cs : List Char) (s : Bytes) : (word cs).read (cs.map ascii ++ s) = .ok ((), s) := by
  induction cs with
  | nil => rfl
  | cons c cs ih => simpa [word, read_bind, read_next_cons] using ih

theorem accepts_null {α : Type} (value : UInt8 → Reader α) :
    Accepts (nullable value) [utf8Bytes "null"] none where
  starts := ⟨ascii 'n', ['u', 'l', 'l'].map ascii, [], by decide, by decide, by decide⟩
  leads := by
    have hn : utf8Bytes "null" = ascii 'n' :: ['u', 'l', 'l'].map ascii := by decide
    rw [hn]
    refine (passes_token (by decide) fun s => ?_).leads
    rw [nullable, if_pos rfl, read_bind, read_word]

theorem accepts_nullable {α : Type} {value : UInt8 → Reader α} {v : List Token} {a : α} (h : Accepts value v a)
    (hn : StartsWith (· ≠ ascii 'n') v) : Accepts (nullable value) v (some a) where
  starts := h.starts
  leads := leads_congr hn (fun b hb => by rw [nullable, if_neg hb]) (h.map some).leads

theorem accepts_optional {α : Type} {gives : α → List Token → Prop} {value : UInt8 → Reader α}
    (hgives : ∀ a v, gives a v → Accepts value v a ∧ StartsWith (· ≠ ascii 'n') v) {o : Option α} {v : List Token}
    (h : GivesOptional gives o v) : Accepts (nullable value) v o := by
  cases h with
  | absent => exact accepts_null value
  | present hv => exact accepts_nullable (hgives _ _ hv).1 (hgives _ _ hv).2

theorem accepts_optional_text {o : Option String} {v : List Token} (h : GivesOptional GivesText o v) :
    Accepts (nullable textValue) v o :=
  accepts_optional (fun _ _ h => ⟨accepts_text h, (startsWith_of_givesText h).imp (by rintro b rfl; decide)⟩) h

end Reader
end CodecBench
