import CodecBench.Proofs.Writing
/-!
How readers go through tokens. A reader leads over some tokens to another reader if reading goes on with that one
behind them, whatever blanks stand in between (`Leads`); the last of the tokens may be a numeral, which ends only
where a mark follows. Where that does not matter it passes them (`Passes`). Both compose, so that what is read is
followed token by token, and a row of items with commas in one induction over the items (`passes_separated`).
-/

namespace CodecBench
namespace Reader
variable {α β σ : Type}

theorem ext {x y : Reader α} (h : ∀ s, x.read s = y.read s) : x = y := by
  obtain ⟨f, hf⟩ := x
  obtain ⟨g, hg⟩ := y
  obtain rfl : f = g := funext h
  rfl

instance : LawfulMonad Reader :=
  LawfulMonad.mk' Reader
    (fun x => ext fun s => by
      change (x >>= fun a => pure (id a)).read s = x.read s
      rw [read_bind]
      cases x.read s <;> rfl)
    (fun _ _ => rfl)
    (fun x f g => ext fun s => by
      rw [read_bind, read_bind, read_bind]
      cases x.read s <;> rfl)

theorem read_map (f : α → β) (x : Reader α) (s : Bytes) :
    (f <$> x).read s =
      match x.read s with
      | .error flaw => .error flaw
      | .ok (a, rest) => .ok (f a, rest) := rfl

def goOn (f : σ → β) (step : σ → UInt8 → Reader (Option σ)) (st : σ) : Option σ → Reader β
  | none => pure (f st)
  | some st => f <$> iterate isBlank step st

theorem map_iterate (f : σ → β) (step : σ → UInt8 → Reader (Option σ)) (st : σ) :
    f <$> iterate isBlank step st = token >>= fun b => step st b >>= goOn f step st := by
  refine ext fun s => ?_
  have hloop : (iterate isBlank step st).read s = loop isBlank step st s := rfl
  rw [read_map, hloop, loop_eq, token]
  simp only [bind_assoc, read_bind, read_takeWhile]
  cases s.dropWhile isBlank with
  | nil => rfl
  | cons b rest =>
    simp only [read_next_cons]
    cases (step st b).read rest with
    | error flaw => rfl
    | ok next =>
      obtain ⟨next, rest⟩ := next
      cases next <;> rfl

/-- Tokens that may follow a numeral: the first of them is a mark between items or at their end. -/
def Closes (ts : List Token) : Prop := ∀ t ∈ ts.head?, t ∈ [mark ',', mark ']', mark '\x7d']

/-- Reading these tokens comes down to reading on behind them. -/
def Passes (x : Reader α) (ts : List Token) (y : Reader α) : Prop :=
  ∀ rest s, Spaced (ts ++ rest) s → ∃ s', Spaced rest s' ∧ x.read s = y.read s'

/-- The same where what follows does not lengthen a numeral. -/
def Leads (x : Reader α) (ts : List Token) (y : Reader α) : Prop :=
  ∀ rest s, Closes rest → Spaced (ts ++ rest) s → ∃ s', Spaced rest s' ∧ x.read s = y.read s'

section Compose
variable {x y z : Reader α} {ts us : List Token}

theorem Passes.leads (h : Passes x ts y) : Leads x ts y := fun rest s _ hs => h rest s hs

theorem Passes.trans (h : Passes x ts y) (h' : Passes y us z) : Passes x (ts ++ us) z := by
  intro rest s hs
  rw [List.append_assoc] at hs
  obtain ⟨s₁, hs₁, hr₁⟩ := h _ s hs
  obtain ⟨s₂, hs₂, hr₂⟩ := h' rest s₁ hs₁
  exact ⟨s₂, hs₂, hr₁.trans hr₂⟩

theorem Passes.trans_leads (h : Passes x ts y) (h' : Leads y us z) : Leads x (ts ++ us) z := by
  intro rest s hc hs
  rw [List.append_assoc] at hs
  obtain ⟨s₁, hs₁, hr₁⟩ := h _ s hs
  obtain ⟨s₂, hs₂, hr₂⟩ := h' rest s₁ hc hs₁
  exact ⟨s₂, hs₂, hr₁.trans hr₂⟩

theorem Leads.trans_passes (h : Leads x ts y) (h' : Passes y us z) (hn : us ≠ []) (hc : Closes us) :
    Passes x (ts ++ us) z := by
  intro rest s hs
  rw [List.append_assoc] at hs
  have hc' : Closes (us ++ rest) := by rwa [Closes, List.head?_append_of_ne_nil _ hn]
  obtain ⟨s₁, hs₁, hr₁⟩ := h _ s hc' hs
  obtain ⟨s₂, hs₂, hr₂⟩ := h' rest s₁ hs₁
  exact ⟨s₂, hs₂, hr₁.trans hr₂⟩

theorem Passes.bind {f : α → Reader β} (h : Passes x ts y) : Passes (x >>= f) ts (y >>= f) := by
  intro rest s hs
  obtain ⟨s', hs', hr⟩ := h rest s hs
  exact ⟨s', hs', by rw [read_bind, read_bind, hr]⟩

theorem Leads.bind {f : α → Reader β} (h : Leads x ts y) : Leads (x >>= f) ts (y >>= f) := by
  intro rest s hc hs
  obtain ⟨s', hs', hr⟩ := h rest s hc hs
  exact ⟨s', hs', by rw [read_bind, read_bind, hr]⟩

end Compose

section Tokens
variable {f : UInt8 → Reader α} {y : Reader α}

theorem isBlank_of_isBlanks {blanks : Bytes} (h : IsBlanks blanks) : ∀ b ∈ blanks, isBlank b := by
  intro b hb
  have hb' := h b hb
  simp only [List.map_cons, List.map_nil, List.mem_cons, List.not_mem_nil, or_false] at hb'
  obtain rfl | rfl | rfl | rfl := hb' <;> decide

theorem read_token {blanks : Bytes} (h : IsBlanks blanks) {b : UInt8} (hb : isBlank b = false) (s : Bytes) :
    token.read (blanks ++ b :: s) = .ok (b, s) := by
  have hd : (blanks ++ b :: s).dropWhile isBlank = b :: s := by
    rw [List.dropWhile_append_of_pos (isBlank_of_isBlanks h), List.dropWhile_cons_of_neg (by simp [hb])]
  rw [token, read_bind, read_takeWhile, hd]
  rfl

def Ends (s : Bytes) : Prop := ∀ b ∈ s.head?, isDigit b = false ∧ b ∉ ['.', 'e', 'E'].map ascii

theorem ends_of_closes {rest : List Token} {s : Bytes} (hc : Closes rest) (hs : Spaced rest s) : Ends s := by
  intro b hb
  have hblank : ∀ {blanks : Bytes}, IsBlanks blanks → b ∈ blanks →
      isDigit b = false ∧ b ∉ ['.', 'e', 'E'].map ascii := by
    intro blanks h hm
    have hb' := h b hm
    simp only [List.map_cons, List.map_nil, List.mem_cons, List.not_mem_nil, or_false] at hb'
    obtain rfl | rfl | rfl | rfl := hb' <;> decide
  cases hs with
  | done h => exact hblank h (List.mem_of_mem_head? hb)
  | @token blanks s t ts h hs =>
    cases blanks with
    | nil =>
      have ht := hc t rfl
      simp only [List.mem_cons, List.not_mem_nil, or_false] at ht
      obtain rfl | rfl | rfl := ht <;> (obtain rfl := Option.some.inj hb; decide)
    | cons b' blanks =>
      obtain rfl := Option.some.inj hb
      exact hblank h List.mem_cons_self

theorem passes_token {b : UInt8} {bs : Bytes} (hb : isBlank b = false)
    (h : ∀ s, (f b).read (bs ++ s) = y.read s) : Passes (token >>= f) [b :: bs] y := by
  intro rest s hs
  cases hs with
  | token hblanks hs =>
    refine ⟨_, hs, ?_⟩
    rw [read_bind, List.cons_append, read_token hblanks hb]
    exact h _

theorem leads_token {b : UInt8} {bs : Bytes} (hb : isBlank b = false)
    (h : ∀ s, Ends s → (f b).read (bs ++ s) = y.read s) : Leads (token >>= f) [b :: bs] y := by
  intro rest s hc hs
  cases hs with
  | token hblanks hs =>
    refine ⟨_, hs, ?_⟩
    rw [read_bind, List.cons_append, read_token hblanks hb]
    exact h _ (ends_of_closes hc hs)

theorem passes_mark {c : Char} (hc : isBlank (ascii c) = false) : Passes (token >>= f) [mark c] (f (ascii c)) :=
  passes_token hc fun _ => rfl

theorem passes_colon : Passes colon [mark ':'] (pure ()) := by
  have h := passes_mark (c := ':') (f := fun b => if b = ascii ':' then pure () else fail .malformed) (by decide)
  rwa [if_pos rfl] at h

end Tokens

def Run (item : σ → List Token → σ → Prop) : σ → List (List Token) → σ → Prop
  | st, [], st' => st = st'
  | st, p :: ps, st' => ∃ mid, item st p mid ∧ Run item mid ps st'

/-- A row of items with commas between them and a mark at its end. It is read as a whole if each item is read at the
start of the row and after a comma, and the mark ends the row at both places. -/
theorem passes_separated (first later done : σ → Reader α) (item : σ → List Token → σ → Prop) {close : Char}
    (hclose : Closes [mark close]) (hfirst : ∀ st, Passes (first st) [mark close] (done st))
    (hlater : ∀ st, Passes (later st) [mark close] (done st))
    (hitem : ∀ st p mid, item st p mid → Leads (first st) p (later mid))
    (hcomma : ∀ st p mid, item st p mid → Leads (later st) (mark ',' :: p) (later mid))
    {st st' : σ} {ps : List (List Token)} (h : Run item st ps st') :
    Passes (first st) (separated ps ++ [mark close]) (done st') := by
  cases ps with
  | nil =>
    obtain rfl := h
    exact hfirst st
  | cons p ps =>
    obtain ⟨mid, hp, hps⟩ := h
    -- What stands behind an item starts with a comma or is the end, so that numerals end.
    have hrest : ∀ {mid}, Run item mid ps st' →
        Passes (later mid) (ps.flatMap (mark ',' :: ·) ++ [mark close]) (done st') := by
      clear hps
      induction ps with
      | nil =>
        intro mid hmid
        obtain rfl := hmid
        exact hlater mid
      | cons q qs ih =>
        intro mid hmid
        obtain ⟨next, hq, hqs⟩ := hmid
        rw [List.flatMap_cons, List.append_assoc]
        refine (hcomma mid q next hq).trans_passes (ih hqs) (by simp) ?_
        cases qs with
        | nil => exact hclose
        | cons r rs => simp [Closes]
    rw [separated, List.append_assoc]
    refine (hitem st p mid hp).trans_passes (hrest hps) (by simp) ?_
    cases ps with
    | nil => exact hclose
    | cons r rs => simp [Closes]

def closingBytes : List UInt8 := [',', ']', '\x7d'].map ascii

def StartsWith (p : UInt8 → Prop) (ts : List Token) : Prop :=
  ∃ b bs rest, ts = (b :: bs) :: rest ∧ isBlank b = false ∧ p b

theorem StartsWith.imp {p q : UInt8 → Prop} {ts : List Token} (h : StartsWith p ts) (hpq : ∀ b, p b → q b) :
    StartsWith q ts := by
  obtain ⟨b, bs, rest, hts, hb, hp⟩ := h
  exact ⟨b, bs, rest, hts, hb, hpq b hp⟩

theorem leads_congr {p : UInt8 → Prop} {f g : UInt8 → Reader α} {ts : List Token} {y : Reader α}
    (hs : StartsWith p ts) (hfg : ∀ b, p b → f b = g b) (h : Leads (token >>= f) ts y) :
    Leads (token >>= g) ts y := by
  obtain ⟨b, bs, ts, rfl, hb, hp⟩ := hs
  intro rest s hc hs
  obtain ⟨s', hs', hr⟩ := h rest s hc hs
  refine ⟨s', hs', ?_⟩
  cases hs with
  | token hblanks hs =>
    rw [read_bind, List.cons_append, read_token hblanks hb] at hr ⊢
    simpa only [hfg b hp] using hr

/-- A value that is read from its tokens. -/
structure Accepts (value : UInt8 → Reader α) (ts : List Token) (a : α) : Prop where
  starts : StartsWith (· ∉ closingBytes) ts
  leads : Leads (token >>= value) ts (pure a)

theorem Accepts.map {value : UInt8 → Reader α} {ts : List Token} {a : α} (h : Accepts value ts a) (f : α → β) :
    Accepts (fun b => f <$> value b) ts (f a) where
  starts := h.starts
  leads := by
    have hb := h.leads.bind (f := fun a => pure (f a))
    rw [bind_assoc, pure_bind] at hb
    simpa only [bind_pure_comp] using hb

/-- A step that reads a row of items up to a closing mark, with a comma before each but the first. -/
structure ReadsRow (step : Bool × σ → UInt8 → Reader (Option (Bool × σ))) (close : Char) (room : σ → Bool)
    (item : σ → UInt8 → Reader σ) : Prop where
  closes : close = ']' ∨ close = '\x7d'
  ended : ∀ st, step st (ascii close) = pure none
  first : ∀ st, ∀ b ∉ closingBytes, step (true, st) b = (fun s => some (false, s)) <$> item st b
  later : ∀ st, room st → ∃ g, step (false, st) (ascii ',') = token >>= g ∧
    ∀ b ∉ closingBytes, g b = (fun s => some (false, s)) <$> item st b

section Row
variable {step : Bool × σ → UInt8 → Reader (Option (Bool × σ))} {close : Char} {room : σ → Bool}
  {item : σ → UInt8 → Reader σ}

def row (step : Bool × σ → UInt8 → Reader (Option (Bool × σ))) (st : Bool × σ) : Reader σ :=
  Prod.snd <$> iterate isBlank step st

theorem row_eq (step : Bool × σ → UInt8 → Reader (Option (Bool × σ))) (st : Bool × σ) :
    row step st = token >>= fun b => step st b >>= goOn Prod.snd step st := map_iterate Prod.snd step st

theorem ReadsRow.passes_close (h : ReadsRow step close room item) (st : Bool × σ) :
    Passes (row step st) [mark close] (pure st.2) := by
  have hm := passes_mark (c := close) (f := fun b => step st b >>= goOn Prod.snd step st) (by
    obtain rfl | rfl := h.closes <;> decide)
  rwa [h.ended, pure_bind, ← row_eq] at hm

theorem leads_item {st mid : σ} {p : List Token} {g : UInt8 → Reader (Option (Bool × σ))}
    (ha : Accepts (item st) p mid) (hg : ∀ b ∉ closingBytes, g b = (fun s => some (false, s)) <$> item st b)
    (former : Bool × σ) : Leads (token >>= fun b => g b >>= goOn Prod.snd step former) p (row step (false, mid)) := by
  have hb := ha.leads.bind (f := fun st => row step (false, st))
  rw [bind_assoc] at hb
  refine leads_congr ha.starts (fun b hb => ?_) hb
  rw [hg b hb, bind_map_left]
  rfl

theorem ReadsRow.passes (h : ReadsRow step close room item) {st st' : σ} {ps : List (List Token)}
    (hr : Run (fun st p mid => room st ∧ Accepts (item st) p mid) st ps st') :
    Passes (row step (true, st)) (separated ps ++ [mark close]) (pure st') := by
  refine passes_separated (fun st => row step (true, st)) (fun st => row step (false, st)) pure _
    ?_ (fun st => h.passes_close (true, st)) (fun st => h.passes_close (false, st)) ?_ ?_ hr
  · obtain hc | hc := h.closes <;> simp [Closes, hc]
  · intro st p mid hp
    rw [row_eq]
    exact leads_item hp.2 (h.first st) _
  · intro st p mid hp
    obtain ⟨g, hg, hgi⟩ := h.later st hp.1
    have hm := passes_mark (c := ',') (f := fun b => step (false, st) b >>= goOn Prod.snd step (false, st)) (by decide)
    rw [hg, bind_assoc, ← row_eq] at hm
    exact hm.trans_leads (leads_item hp.2 hgi _)

end Row

theorem readsRow_itemStep (room : σ → Bool) (item : σ → UInt8 → Reader σ) :
    ReadsRow (itemStep room item) ']' room item where
  closes := .inl rfl
  ended _ := rfl
  first st b hb := by
    rw [itemStep, if_neg (fun h => hb (by simp [closingBytes, h])), if_pos rfl]
  later st hr := by
    refine ⟨fun b => if b = ascii ']' then fail .malformed else (fun s => some (false, s)) <$> item st b, ?_,
      fun b hb => if_neg fun h => hb (by simp [closingBytes, h])⟩
    have hcomma : (ascii ',' == ascii ',' && room st) = true := by
      simp [hr]
    rw [itemStep, if_neg (by decide), if_neg Bool.false_ne_true]
    exact if_pos hcomma

def member (read : String → σ → Reader σ) (st : σ) (b : UInt8) : Reader σ :=
  if b = ascii '"' then text >>= fun key => read key st else fail .malformed

theorem keyed_eq (read : String → σ → Reader σ) (st : σ) (b : UInt8) :
    keyed read st b = (fun s => some (false, s)) <$> member read st b := by
  rw [keyed, member]
  split
  · rw [map_bind]
  · rfl

theorem readsRow_memberStep (read : String → σ → Reader σ) :
    ReadsRow (memberStep read) '\x7d' (fun _ => true) (member read) where
  closes := .inr rfl
  ended _ := rfl
  first st b hb := by
    rw [memberStep, if_neg (fun h => hb (by simp [closingBytes, h])), if_pos rfl, keyed_eq]
  later st _ := ⟨keyed read st, rfl, fun b _ => keyed_eq read st b⟩

end Reader
end CodecBench
