import CodecBench.Proofs.Document
import CodecBench.Proofs.Printing
/-!
A document of a chart tells it. Whatever is a document is read as one value of JSON (`Reader.anyValue`), in which
numerals are numbers with a sign. Such a value is of one chart, up to what its null bars stand for
(`Chart.HasValue.alike`), since no two doubles of one sign are nearest to one number; and so a document is of one chart
(`Chart.IsWriting.alike`).
-/

namespace CodecBench

/-- A value of JSON. Zero has two signs. -/
inductive Value where
  | null
  | text (s : String)
  | number (negative : Bool) (q : ℚ)
  | array (items : List Value)
  | object (members : List (String × Value))

namespace Reader
variable {α β σ : Type}

def numeralValue (b : UInt8) : Reader Value := do
  let ds ← whole .malformed b
  let places ← fraction .malformed
  let power ← exponent .malformed
  pure (.number (b = ascii '-')
    ((if b = ascii '-' then -1 else 1) * digitsValue (ds ++ places) * 10 ^ (power - places.length)))

/-- A value no deeper than this. -/
def anyValue : Nat → UInt8 → Reader Value
  | 0, _ => fail .malformed
  | depth + 1, b =>
    if b = ascii 'n' then do
      word ['u', 'l', 'l']
      pure .null
    else if b = ascii '"' then .text <$> text
    else if b = ascii '[' then .array <$> list (anyValue depth)
    else if b = ascii '\x7b' then
      (fun ms => .object ms.reverse) <$>
        members (fun key ms => (fun t => (key, t) :: ms) <$> memberValue none (anyValue depth)) []
    else numeralValue b

theorem Passes.map {x : Reader α} {ts : List Token} {a : α} (h : Passes x ts (pure a)) (f : α → β) :
    Passes (f <$> x) ts (pure (f a)) := by
  have hb := h.bind (f := fun a => pure (f a))
  rwa [pure_bind, bind_pure_comp] at hb

theorem Leads.map {x : Reader α} {ts : List Token} {a : α} (h : Leads x ts (pure a)) (f : α → β) :
    Leads (f <$> x) ts (pure (f a)) := by
  have hb := h.bind (f := fun a => pure (f a))
  rwa [pure_bind, bind_pure_comp] at hb

theorem Accepts.congr {p : UInt8 → Prop} {f g : UInt8 → Reader α} {ts : List Token} {a : α} (h : Accepts f ts a)
    (hs : StartsWith p ts) (hfg : ∀ b, p b → f b = g b) : Accepts g ts a :=
  ⟨h.starts, leads_congr hs hfg h.leads⟩

section Any
variable {depth : Nat}

theorem accepts_any_null : Accepts (anyValue (depth + 1)) [utf8Bytes "null"] .null where
  starts := (accepts_null textValue).starts
  leads := by
    have hn : utf8Bytes "null" = ascii 'n' :: ['u', 'l', 'l'].map ascii := by decide
    rw [hn]
    refine (passes_token (by decide) fun s => ?_).leads
    rw [anyValue, if_pos rfl, read_bind, read_word]

theorem accepts_any_text {s : String} {v : List Token} (h : GivesText s v) :
    Accepts (anyValue (depth + 1)) v (.text s) := by
  refine ((accepts_text h).map Value.text).congr (startsWith_of_givesText h) ?_
  rintro b rfl
  rfl

theorem accepts_any_number (n : Numeral) : Accepts (anyValue (depth + 1)) [n.bytes] (.number n.negative n.value) := by
  obtain ⟨b, bs, hn, hb, hneg, hread⟩ := exists_read_parts n
  obtain ⟨hblank, hclosing, hne, -⟩ := startsNumber_cases hb
  have hother : b ≠ ascii '"' ∧ b ≠ ascii '[' ∧ b ≠ ascii '\x7b' := by
    refine ⟨?_, ?_, ?_⟩ <;> (rintro rfl; exact absurd hb (by decide))
  have hany : anyValue (depth + 1) b = numeralValue b := by
    rw [anyValue, if_neg hne, if_neg hother.1, if_neg hother.2.1, if_neg hother.2.2]
  have hvalue : n.value = (if b = ascii '-' then -1 else 1) *
      digitsValue (n.whole.map digitByte ++ n.places.map digitByte) *
        10 ^ (n.exponent - (n.places.map digitByte).length) := by
    rw [← List.map_append, digitsValue_map_digitByte, List.length_map, Numeral.value]
    simp only [hneg]
  have hsign : decide (b = ascii '-') = n.negative := by
    simp [hneg]
  refine ⟨⟨b, bs, [], by rw [hn], hblank, hclosing⟩, ?_⟩
  rw [hn]
  refine leads_token hblank fun s hs => ?_
  rw [hany, numeralValue, hread _ _ s hs, hvalue, ← hsign]

theorem accepts_any_array {ts : List Value} {values : List (List Token)}
    (h : List.Forall₂ (fun t v => Accepts (anyValue depth) v t) ts values) :
    Accepts (anyValue (depth + 1)) (arrayOf values) (.array ts) :=
  accepts_marked (by decide) (by decide) ((passes_list h).map Value.array)

theorem accepts_any_object {ts : List (String × Value)} {ms : List (Token × List Token)}
    (h : List.Forall₂ (fun t m => SpellsText t.1 m.1 ∧ Accepts (anyValue depth) m.2 t.2) ts ms) :
    Accepts (anyValue (depth + 1)) (objectOf ms) (.object ts) := by
  -- Members are put before those already read, so they are followed from any of these.
  have hrun : ∀ former, Run (fun st p mid => (fun _ => true) st ∧
      Accepts (member (fun key ms => (fun t => (key, t) :: ms) <$> memberValue none (anyValue depth)) st) p mid)
      former (ms.map memberOf) (ts.reverse ++ former) := by
    induction h with
    | nil => exact fun former => rfl
    | @cons t m ts ms ht _ ih =>
      intro former
      obtain ⟨hkey, hvalue⟩ := ht
      have hmember := (leads_memberValue hvalue).map fun v => (t.1, v) :: former
      exact ⟨t :: former, ⟨rfl, accepts_member (m := ⟨t.1, m.1, m.2⟩) hkey hmember⟩, by simpa using ih (t :: former)⟩
  have hp := ((readsRow_memberStep _).passes (hrun [])).map fun ms => Value.object ms.reverse
  rw [List.append_nil, List.reverse_reverse] at hp
  exact accepts_marked (by decide) (by decide) hp

end Any

/-- Tokens that are given so are read as a tree that fits. -/
def ReadAs (depth : Nat) (gives : List Token → Prop) (fits : Value → Prop) : Prop :=
  ∀ v, gives v → ∃ t, Accepts (anyValue depth) v t ∧ fits t

end Reader

/-- Bars that are written alike: the finite ones are the same. -/
def SameBars (os os' : List (Option Float)) : Prop :=
  List.Forall₂ (fun o o' => o.filter Float.isFinite = o'.filter Float.isFinite) os os'

namespace Value
variable {α β : Type}

/-- What is null of a bar is the tree of it if it is not finite. -/
inductive OfBar : Option Float → Value → Prop
  | null {o : Option Float} : o.filter Float.isFinite = none → OfBar o .null
  | number {x : Float} {q : ℚ} : x.isFinite → IsNearest x q → OfBar (some x) (.number (signBit x) q)

def OfText (s : String) (t : Value) : Prop := t = .text s

def OfArray (fits : α → Value → Prop) (as : List α) (t : Value) : Prop :=
  ∃ ts, t = .array ts ∧ List.Forall₂ fits as ts

def OfObject (parts : List (String × (Value → Prop))) (t : Value) : Prop :=
  ∃ ts : List (String × Value), t = .object ts ∧ List.Forall₂ (fun p m => p.1 = m.1 ∧ p.2 m.2) parts ts

theorem OfBar.alike {o o' : Option Float} {t : Value} (h : OfBar o t) (h' : OfBar o' t) :
    o.filter Float.isFinite = o'.filter Float.isFinite := by
  cases h with
  | null hn =>
    cases h' with
    | null hn' => rw [hn, hn']
  | @number x q hx hq =>
    -- The other double is only known to have the sign that is written.
    generalize hs : signBit x = negative at h'
    cases h' with
    | number hx' hq' => rw [hq.unique hq' hs]

theorem OfText.alike {s s' : String} {t : Value} (h : OfText s t) (h' : OfText s' t) : s = s' := by
  have he := h.symm.trans h'
  injection he

theorem OfArray.alike {fits : α → Value → Prop} {fits' : β → Value → Prop} {r : α → β → Prop} {as : List α}
    {bs : List β} {t : Value} (h : OfArray fits as t) (h' : OfArray fits' bs t)
    (hr : ∀ a b t, fits a t → fits' b t → r a b) : List.Forall₂ r as bs := by
  obtain ⟨ts, rfl, h⟩ := h
  obtain ⟨ts', he, h'⟩ := h'
  injection he with he
  subst he
  refine (forall₂_exists_iff.2 ⟨ts, h, h'⟩).imp fun a b hab => ?_
  obtain ⟨t, ha, hb⟩ := hab
  exact hr a b t ha hb

theorem OfArray.texts_eq {ss ss' : List String} {t : Value} (h : OfArray OfText ss t) (h' : OfArray OfText ss' t) :
    ss = ss' := by
  have he := h.alike h' fun _ _ _ => OfText.alike
  rwa [List.forall₂_eq_eq_eq] at he

theorem OfArray.sameBars {os os' : List (Option Float)} {t : Value} (h : OfArray OfBar os t)
    (h' : OfArray OfBar os' t) : SameBars os os' := h.alike h' fun _ _ _ => OfBar.alike

theorem OfObject.common {parts parts' : List (String × (Value → Prop))} {t : Value} (h : OfObject parts t)
    (h' : OfObject parts' t) : List.Forall₂ (fun p p' => ∃ t, p.2 t ∧ p'.2 t) parts parts' := by
  obtain ⟨ts, rfl, h⟩ := h
  obtain ⟨ts', he, h'⟩ := h'
  injection he with he
  subst he
  refine (forall₂_exists_iff.2 ⟨ts, h, h'⟩).imp fun p p' hpp => ?_
  obtain ⟨t, hp, hp'⟩ := hpp
  exact ⟨t.2, hp.2, hp'.2⟩

end Value

namespace Reader
variable {α : Type} {depth : Nat}

theorem readAs_text (s : String) : ReadAs (depth + 1) (GivesText s) (Value.OfText s) :=
  fun _ h => ⟨_, accepts_any_text h, rfl⟩

theorem readAs_bar (o : Option Float) : ReadAs (depth + 1) (GivesBar o) (Value.OfBar o) := by
  intro v h
  cases h with
  | absent => exact ⟨_, accepts_any_null, .null rfl⟩
  | infinite hx => exact ⟨_, accepts_any_null, .null (Option.filter_some_neg (Bool.not_eq_true _ ▸ hx))⟩
  | finite hx hs hn => exact ⟨_, accepts_any_number _, hs ▸ .number hx hn⟩

theorem readAs_array {gives : α → List Token → Prop} {fits : α → Value → Prop}
    (h : ∀ a, ReadAs depth (gives a) (fits a)) (as : List α) :
    ReadAs (depth + 1) (GivesArray gives as) (Value.OfArray fits as) := by
  intro v hv
  obtain ⟨values, hvalues, rfl⟩ := hv
  obtain ⟨ts, hts, hfit⟩ := forall₂_exists_iff.1 (hvalues.imp fun a v => h a v).flip
  exact ⟨_, accepts_any_array hts.flip, ts, rfl, hfit⟩

theorem readAs_object {parts : List (String × (List Token → Prop))} {fits : List (String × (Value → Prop))}
    (h : List.Forall₂ (fun p q => p.1 = q.1 ∧ ReadAs depth p.2 q.2) parts fits) :
    ReadAs (depth + 1) (GivesObject parts) (Value.OfObject fits) := by
  intro v hv
  obtain ⟨ms, hms, rfl⟩ := hv
  have hread : List.Forall₂ (fun m q => ∃ t : String × Value,
      (SpellsText t.1 m.1 ∧ Accepts (anyValue depth) m.2 t.2) ∧ q.1 = t.1 ∧ q.2 t.2) ms fits := by
    refine (forall₂_exists_iff.2 ⟨parts, hms.flip, h.flip⟩).imp fun m q hmq => ?_
    obtain ⟨p, ⟨hkey, hvalue⟩, hname, hreads⟩ := hmq
    obtain ⟨t, ht, hfit⟩ := hreads _ hvalue
    exact ⟨(p.1, t), ⟨hkey, ht⟩, hname.symm, hfit⟩
  obtain ⟨ts, hts, hfit⟩ := forall₂_exists_iff.1 hread
  exact ⟨_, accepts_any_object hts.flip, ts, rfl, hfit⟩

end Reader

structure Bars.Alike (b b' : Bars) : Prop where
  id_eq : b.id = b'.id
  title_eq : b.title = b'.title
  encode : SameBars b.encode b'.encode
  decode : SameBars b.decode b'.decode
  names_eq : b.names = b'.names

structure Series.Alike (s s' : Series) : Prop where
  variant_eq : s.variant = s'.variant
  values : SameBars (s.values.map some) (s'.values.map some)

structure Groups.Alike (g g' : Groups) : Prop where
  id_eq : g.id = g'.id
  title_eq : g.title = g'.title
  baseline_eq : g.baseline = g'.baseline
  subjects_eq : g.subjects = g'.subjects
  series : List.Forall₂ Series.Alike g.series g'.series

namespace Chart
open Reader

/-- Charts of one kind with the same texts and the same finite numbers. -/
def Alike : Chart → Chart → Prop
  | .category b, .category b' => b.Alike b'
  | .overall b, .overall b' => b.Alike b'
  | .comparison g, .comparison g' => g.Alike g'
  | _, _ => False

def BarsValue (kind : String) (b : Bars) : Value → Prop :=
  Value.OfObject [("chart", Value.OfText kind), ("id", Value.OfText b.id), ("title", Value.OfText b.title),
    ("legend", Value.OfArray Value.OfText ["Encode", "Decode"]), ("encode", Value.OfArray Value.OfBar b.encode),
    ("decode", Value.OfArray Value.OfBar b.decode), ("names", Value.OfArray Value.OfText b.names)]

def SeriesValue (s : Series) : Value → Prop :=
  Value.OfObject [("variant", Value.OfText s.variant), ("values", Value.OfArray Value.OfBar (s.values.map some))]

def GroupsValue (g : Groups) : Value → Prop :=
  Value.OfObject [("chart", Value.OfText "comparison"), ("id", Value.OfText g.id), ("title", Value.OfText g.title),
    ("baseline", Value.OfText g.baseline), ("subjects", Value.OfArray Value.OfText g.subjects),
    ("series", Value.OfArray SeriesValue g.series)]

def HasValue : Chart → Value → Prop
  | .category b => BarsValue "category" b
  | .overall b => BarsValue "overall" b
  | .comparison g => GroupsValue g

section ReadAs
variable {depth : Nat}

theorem readAs_bars (kind : String) (b : Bars) : ReadAs (depth + 3) (GivesBars kind b) (BarsValue kind b) :=
  readAs_object (.cons ⟨rfl, readAs_text _⟩ (.cons ⟨rfl, readAs_text _⟩ (.cons ⟨rfl, readAs_text _⟩
    (.cons ⟨rfl, readAs_array readAs_text _⟩ (.cons ⟨rfl, readAs_array readAs_bar _⟩
      (.cons ⟨rfl, readAs_array readAs_bar _⟩ (.cons ⟨rfl, readAs_array readAs_text _⟩ .nil)))))))

theorem readAs_series (s : Series) : ReadAs (depth + 3) (GivesSeries s) (SeriesValue s) :=
  readAs_object (.cons ⟨rfl, readAs_text _⟩ (.cons ⟨rfl, readAs_array readAs_bar _⟩ .nil))

theorem readAs_chart (c : Chart) : ReadAs (depth + 5) c.Gives c.HasValue := by
  cases c with
  | category b => exact readAs_bars "category" b
  | overall b => exact readAs_bars "overall" b
  | comparison g =>
    exact readAs_object (.cons ⟨rfl, readAs_text _⟩ (.cons ⟨rfl, readAs_text _⟩ (.cons ⟨rfl, readAs_text _⟩
      (.cons ⟨rfl, readAs_text _⟩ (.cons ⟨rfl, readAs_array readAs_text _⟩
        (.cons ⟨rfl, readAs_array readAs_series _⟩ .nil))))))

end ReadAs

theorem BarsValue.alike {kind kind' : String} {b b' : Bars} {t : Value} (h : BarsValue kind b t)
    (h' : BarsValue kind' b' t) : kind = kind' ∧ b.Alike b' := by
  have hparts := Value.OfObject.common h h'
  simp only [List.forall₂_cons] at hparts
  obtain ⟨⟨_, hk, hk'⟩, ⟨_, hid, hid'⟩, ⟨_, ht, ht'⟩, -, ⟨_, he, he'⟩, ⟨_, hd, hd'⟩, ⟨_, hn, hn'⟩, -⟩ := hparts
  exact ⟨hk.alike hk', hid.alike hid', ht.alike ht', he.sameBars he', hd.sameBars hd', hn.texts_eq hn'⟩

theorem SeriesValue.alike {s s' : Series} {t : Value} (h : SeriesValue s t) (h' : SeriesValue s' t) : s.Alike s' := by
  have hparts := Value.OfObject.common h h'
  simp only [List.forall₂_cons] at hparts
  obtain ⟨⟨_, hv, hv'⟩, ⟨_, hb, hb'⟩, -⟩ := hparts
  exact ⟨hv.alike hv', hb.sameBars hb'⟩

theorem GroupsValue.alike {g g' : Groups} {t : Value} (h : GroupsValue g t) (h' : GroupsValue g' t) : g.Alike g' := by
  have hparts := Value.OfObject.common h h'
  simp only [List.forall₂_cons] at hparts
  obtain ⟨-, ⟨_, hid, hid'⟩, ⟨_, ht, ht'⟩, ⟨_, hb, hb'⟩, ⟨_, hs, hs'⟩, ⟨_, hr, hr'⟩, -⟩ := hparts
  exact ⟨hid.alike hid', ht.alike ht', hb.alike hb', hs.texts_eq hs', hr.alike hr' fun _ _ _ => SeriesValue.alike⟩

theorem kind_eq_comparison {kind : String} {b : Bars} {g : Groups} {t : Value} (h : BarsValue kind b t)
    (h' : GroupsValue g t) : kind = "comparison" := by
  have hparts := Value.OfObject.common h h'
  rw [List.forall₂_cons] at hparts
  obtain ⟨⟨_, hk, hk'⟩, -⟩ := hparts
  exact hk.alike hk'

/-- A value is of one chart, up to what its null bars stand for. -/
theorem HasValue.alike {c d : Chart} {t : Value} (h : c.HasValue t) (h' : d.HasValue t) : c.Alike d := by
  cases c with
  | category b =>
    cases d with
    | category b' => exact (BarsValue.alike h h').2
    | overall b' => exact absurd (BarsValue.alike h h').1 (by decide)
    | comparison g => exact absurd (kind_eq_comparison h h') (by decide)
  | overall b =>
    cases d with
    | category b' => exact absurd (BarsValue.alike h h').1 (by decide)
    | overall b' => exact (BarsValue.alike h h').2
    | comparison g => exact absurd (kind_eq_comparison h h') (by decide)
  | comparison g =>
    cases d with
    | category b => exact absurd (kind_eq_comparison h' h) (by decide)
    | overall b => exact absurd (kind_eq_comparison h' h) (by decide)
    | comparison g' => exact GroupsValue.alike h h'

theorem IsWriting.alike {c d : Chart} {s : Bytes} (h : c.IsWriting s) (h' : d.IsWriting s) : c.Alike d := by
  have hread : ∀ {c : Chart}, c.IsWriting s → ∃ t s', c.HasValue t ∧ (token >>= anyValue 5).read s = .ok (t, s') := by
    intro c hc
    obtain ⟨ts, hts, hs⟩ := hc
    obtain ⟨t, ht, hv⟩ := readAs_chart c ts hts
    obtain ⟨s', -, hr⟩ := ht.leads [] s nofun (by simpa using hs)
    exact ⟨t, s', hv, hr⟩
  -- Both are read from the same bytes, and reading has one result.
  obtain ⟨t, _, hv, hr⟩ := hread h
  obtain ⟨t', _, hv', hr'⟩ := hread h'
  obtain rfl : t = t' := by
    rw [hr] at hr'
    injection hr' with he
    injection he
  exact hv.alike hv'

/-- The bytes are a document of this chart, and of no other but those that are written alike. -/
structure IsToldBy (c : Chart) (s : Bytes) : Prop where
  writing : c.IsWriting s
  only : ∀ d : Chart, d.IsWriting s → d.Alike c

end Chart

theorem ChartFolder.isToldBy_content (c : Chart) : c.IsToldBy (utf8Bytes (content c)) where
  writing := isWriting_content c
  only _ h := h.alike (isWriting_content c)

end CodecBench
