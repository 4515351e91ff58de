import CodecBench.Proofs.Numeral
import CodecBench.Proofs.Spelling
/-!
Values that nobody asks for are passed over as a whole, however deep they are (`skips_of_isValue`). The loop that
does this keeps the open brackets itself; so a value inside is passed over by the same loop, which then stands behind
it with the brackets it had.
-/

namespace CodecBench
namespace Reader

def resume : Option (List Bracket × Due) → Reader Unit
  | none => pure ()
  | some st => (fun _ => ()) <$> iterate isBlank skipStep st

theorem skipValue_eq (b : UInt8) : skipValue b = skipOpening [] b >>= resume := by
  rw [skipValue]
  congr 1

theorem resume_some (st : List Bracket × Due) :
    resume (some st) = token >>= fun b => skipStep st b >>= resume := by
  have hresume : goOn (fun _ => ()) skipStep st = resume := funext fun next => by cases next <;> rfl
  rw [← hresume]
  exact map_iterate (fun _ => ()) skipStep st

def skipFrom (opened : List Bracket) : Reader Unit := token >>= fun b => skipOpening opened b >>= resume

theorem resume_value (opened : List Bracket) : resume (some (opened, .value)) = skipFrom opened := by
  rw [resume_some]
  cases opened <;> rfl

/-- Tokens of a value that is passed over inside any brackets. -/
structure Skips (v : List Token) : Prop where
  starts : StartsWith (· ∉ closingBytes) v
  leads : ∀ opened, Leads (skipFrom opened) v (resume (valueEnded opened))

theorem skips_word (b : UInt8) (cs : List Char) (hb : isBlank b = false) (hc : b ∉ closingBytes)
    (hw : wordAfter? b = some cs) : Skips [b :: cs.map ascii] where
  starts := ⟨b, _, [], rfl, hb, hc⟩
  leads opened := (passes_token hb fun s => by
    rw [skipOpening, hw, bind_assoc, read_bind, read_word]
    rfl).leads

theorem skips_numeral (n : Numeral) : Skips [n.bytes] := by
  obtain ⟨b, bs, hn, hb, -, hread⟩ := exists_read_numeral n
  obtain ⟨hblank, hclosing, -, hword⟩ := startsNumber_cases hb
  rw [hn]
  refine ⟨⟨b, bs, [], rfl, hblank, hclosing⟩, fun opened => leads_token hblank fun s hs => ?_⟩
  rw [skipOpening, hword]
  simp only [if_pos hb, bind_assoc]
  rw [read_bind, hread _ _ hs]
  rfl

theorem skips_text {t : Token} (h : IsText t) : Skips [t] where
  starts := by
    obtain ⟨parts, -, rfl⟩ := h
    exact (startsWith_quote _ _).imp (by rintro b rfl; decide)
  leads opened := by
    have hopen : skipOpening opened (ascii '"') = skipText >>= fun _ => pure (valueEnded opened) := rfl
    exact (passes_skipText h (by rw [hopen, bind_assoc]; rfl)).leads

def SkipsItem : Bracket → List Token → Prop
  | .array, p => Skips p
  | .object, p => ∃ t v, p = memberOf (t, v) ∧ IsText t ∧ Skips v

theorem valueEnded_cons (bracket : Bracket) (opened : List Bracket) :
    valueEnded (bracket :: opened) = some (bracket :: opened, .separator) := if_neg (List.cons_ne_nil _ _)

theorem skipKey_quote : skipKey (ascii '"') = skipText >>= fun _ => colon := rfl

theorem leads_member {opened : List Bracket} {t : Token} {v : List Token} {f : UInt8 → Reader Unit} (ht : IsText t)
    (hv : Skips v) (hf : f (ascii '"') = skipText >>= fun _ => colon >>= fun _ => skipFrom (.object :: opened)) :
    Leads (token >>= f) (memberOf (t, v)) (resume (some (.object :: opened, .separator))) := by
  have hcolon : Passes (colon >>= fun _ => skipFrom (.object :: opened)) [mark ':'] (skipFrom (.object :: opened)) :=
    passes_colon.bind
  have hvalue := hv.leads (.object :: opened)
  rw [valueEnded_cons] at hvalue
  exact ((passes_skipText ht hf).trans hcolon).trans_leads hvalue

theorem leads_first {bracket : Bracket} {opened : List Bracket} {p : List Token} (h : SkipsItem bracket p) :
    Leads (resume (some (bracket :: opened, .first))) p (resume (some (bracket :: opened, .separator))) := by
  rw [resume_some]
  cases bracket with
  | array =>
    have hv := h.leads (.array :: opened)
    rw [valueEnded_cons] at hv
    refine leads_congr h.starts (fun b hb => ?_) hv
    have hb' : b ≠ Bracket.array.closing := fun he => hb (by simp [closingBytes, he, Bracket.closing])
    simp only [skipStep, if_neg hb']
  | object =>
    obtain ⟨t, v, rfl, ht, hv⟩ := h
    have hstep : skipStep (.object :: opened, .first) (ascii '"') =
        skipKey (ascii '"') >>= fun _ => pure (some (.object :: opened, .value)) := rfl
    refine leads_member ht hv ?_
    rw [hstep, skipKey_quote, ← resume_value]
    simp only [bind_assoc, pure_bind]

theorem leads_comma {bracket : Bracket} {opened : List Bracket} {p : List Token} (h : SkipsItem bracket p) :
    Leads (resume (some (bracket :: opened, .separator))) (mark ',' :: p)
      (resume (some (bracket :: opened, .separator))) := by
  have hm := passes_mark (c := ',') (f := fun b => skipStep (bracket :: opened, .separator) b >>= resume) (by decide)
  rw [← resume_some] at hm
  cases bracket with
  | array =>
    have hstep : skipStep (.array :: opened, .separator) (ascii ',') = pure (some (.array :: opened, .value)) := rfl
    have hv := h.leads (.array :: opened)
    rw [hstep, pure_bind, resume_value] at hm
    rw [valueEnded_cons] at hv
    exact hm.trans_leads hv
  | object =>
    obtain ⟨t, v, rfl, ht, hv⟩ := h
    have hstep : skipStep (.object :: opened, .separator) (ascii ',') >>= resume =
        token >>= fun b => skipKey b >>= fun _ => skipFrom (.object :: opened) := by
      have hcomma : skipStep (.object :: opened, .separator) (ascii ',') =
        token >>= fun b => skipKey b >>= fun _ => pure (some (.object :: opened, .value)) := rfl
      rw [hcomma, ← resume_value]
      simp only [bind_assoc, pure_bind]
    rw [hstep] at hm
    refine hm.trans_leads (leads_member ht hv ?_)
    rw [skipKey_quote, bind_assoc]

theorem passes_closing (bracket : Bracket) (opened : List Bracket) {due : Due} (hd : due ≠ .value) {c : Char}
    (hc : bracket.closing = ascii c) :
    Passes (resume (some (bracket :: opened, due))) [mark c] (resume (valueEnded opened)) := by
  have hm := passes_mark (c := c) (f := fun b => skipStep (bracket :: opened, due) b >>= resume) (by
    rw [← hc]
    cases bracket <;> decide)
  rw [← resume_some] at hm
  have hstep : skipStep (bracket :: opened, due) (ascii c) = pure (valueEnded opened) := by
    cases due with
    | first => exact if_pos hc.symm
    | value => exact absurd rfl hd
    | separator => exact if_pos hc.symm
  rwa [hstep, pure_bind] at hm

theorem run_of_forall {p : List Token → Prop} {ps : List (List Token)} (h : ∀ x ∈ ps, p x) :
    Run (fun (_ : Unit) x _ => p x) () ps () := by
  induction ps with
  | nil => rfl
  | cons x ps ih => exact ⟨(), h x List.mem_cons_self, ih fun y hy => h y (List.mem_cons_of_mem _ hy)⟩

theorem skips_bracketed (bracket : Bracket) {openMark closeMark : Char} {ps : List (List Token)}
    (hopen : ∀ opened, skipOpening opened (ascii openMark) = pure (some (bracket :: opened, .first)))
    (hb : isBlank (ascii openMark) = false) (ho : ascii openMark ∉ closingBytes)
    (hc : bracket.closing = ascii closeMark) (h : ∀ p ∈ ps, SkipsItem bracket p) :
    Skips (mark openMark :: separated ps ++ [mark closeMark]) where
  starts := ⟨_, [], _, rfl, hb, ho⟩
  leads opened := by
    have hm := passes_mark (f := fun b => skipOpening opened b >>= resume) hb
    rw [hopen, pure_bind] at hm
    have hcloses : Closes [mark closeMark] := by
      rw [mark, ← hc]
      cases bracket <;> simp [Closes, mark, Bracket.closing]
    have hrow := passes_separated (fun _ => resume (some (bracket :: opened, .first)))
      (fun _ => resume (some (bracket :: opened, .separator))) (fun _ => resume (valueEnded opened))
      (fun _ p _ => SkipsItem bracket p) hcloses (fun _ => passes_closing _ _ (by decide) hc)
      (fun _ => passes_closing _ _ (by decide) hc) (fun _ _ _ => leads_first) (fun _ _ _ => leads_comma)
      (run_of_forall h)
    exact (hm.trans hrow).leads

theorem skips_of_isValue {v : List Token} (h : IsValue v) : Skips v := by
  induction h with
  | word hw =>
    simp only [List.mem_cons, List.not_mem_nil, or_false] at hw
    obtain rfl | rfl | rfl := hw
    · exact skips_word (ascii 'n') ['u', 'l', 'l'] (by decide) (by decide) rfl
    · exact skips_word (ascii 't') ['r', 'u', 'e'] (by decide) (by decide) rfl
    · exact skips_word (ascii 'f') ['a', 'l', 's', 'e'] (by decide) (by decide) rfl
  | numeral n => exact skips_numeral n
  | text ht => exact skips_text ht
  | array _ ih => exact skips_bracketed .array (fun _ => rfl) (by decide) (by decide) rfl ih
  | object ht _ ih =>
    refine skips_bracketed .object (fun _ => rfl) (by decide) (by decide) rfl fun p hp => ?_
    obtain ⟨m, hm, rfl⟩ := List.mem_map.1 hp
    exact ⟨m.1, m.2, rfl, ht m hm, ih m hm⟩

theorem leads_skipMember {v : List Token} (h : IsValue v) : Leads skipMember (mark ':' :: v) (pure ()) := by
  have hskip : skipMember = colon >>= fun _ => skipFrom [] := by
    rw [skipMember, skipFrom]
    simp only [skipValue_eq]
  rw [hskip]
  exact passes_colon.bind.trans_leads ((skips_of_isValue h).leads [])

end Reader
end CodecBench
