import CodecBench.Proofs.Nearest
import CodecBench.Proofs.Skipping
import Mathlib.Data.List.Forall2
import Mathlib.Data.List.TakeWhile
/-!
Reading a results document gives back the entries that were written. A record is read in the same way from an object
and from an array: what matters of either are the keys that have been read (`ReadsRecord.accepts`). Entries are records,
and so is a document (`Document.read_of_writes`).
-/

namespace CodecBench
namespace Reader
variable {α σ : Type}

theorem leads_memberValue {value : UInt8 → Reader α} {v : List Token} {a : α} (h : Accepts value v a) :
    Leads (memberValue none value) (mark ':' :: v) (pure a) :=
  passes_colon.bind.trans_leads h.leads

theorem accepts_member {read : String → σ → Reader σ} {st mid : σ} {m : Member} (hs : SpellsText m.key m.spelling)
    (h : Leads (read m.key st) (mark ':' :: m.value) (pure mid)) :
    Accepts (member read st) (memberOf (m.spelling, m.value)) mid where
  starts := by
    obtain ⟨parts, -, hp⟩ := hs
    rw [memberOf, hp]
    exact (startsWith_quote _ _).imp (by rintro b rfl; decide)
  leads := (passes_text hs (if_pos rfl)).trans_leads h

theorem accepts_marked {value : UInt8 → Reader α} {c : Char} {ts : List Token} {a : α}
    (hc : isBlank (ascii c) = false) (hb : ascii c ∉ closingBytes) (h : Passes (value (ascii c)) ts (pure a)) :
    Accepts value (mark c :: ts) a where
  starts := ⟨_, [], _, rfl, hc, hb⟩
  leads := ((passes_mark hc).trans h).leads

theorem passes_list {value : UInt8 → Reader α} {as : List α} {values : List (List Token)}
    (h : List.Forall₂ (fun a v => Accepts value v a) as values) :
    Passes (list value) (separated values ++ [mark ']']) (pure as) := by
  have hrun : ∀ former, Run (fun vs p mid => (fun _ => true) vs ∧ Accepts (fun b => (· :: vs) <$> value b) p mid)
      former values (as.reverse ++ former) := by
    induction h with
    | nil => exact fun former => rfl
    | @cons a v as values ha _ ih =>
      intro former
      exact ⟨a :: former, ⟨rfl, ha.map (· :: former)⟩, by simpa using ih (a :: former)⟩
  have hp := ((readsRow_itemStep _ _).passes (hrun [])).bind (f := fun vs => pure vs.reverse)
  rw [pure_bind, List.append_nil, List.reverse_reverse] at hp
  exact hp

def fieldItem (st : List (σ → UInt8 → Reader σ) × σ) (b : UInt8) : Reader (List (σ → UInt8 → Reader σ) × σ) :=
  match st.1 with
  | [] => fail .malformed
  | field :: rest => (fun s => (rest, s)) <$> field st.2 b

theorem sequence_eq (fields : List (σ → UInt8 → Reader σ)) (st : σ) :
    sequence fields st =
      Prod.snd <$> row (itemStep (fun s => !s.1.isEmpty) fieldItem) (true, (fields, st)) := by
  refine congrArg (fun item => Prod.snd <$> items (fun s => !s.1.isEmpty) item (fields, st))
    (funext fun s => funext fun b => ?_)
  obtain ⟨fields, st⟩ := s
  cases fields <;> rfl

section Fields
variable {state : List String → σ} {gives : String → List Token → Prop}

theorem run_fieldItem {values : List (List Token)} {keys : List String} {fields : List (σ → UInt8 → Reader σ)}
    (done : List String)
    (hf : List.Forall₂ (fun k f => ∀ done v, gives k v → Accepts (f (state done)) v (state (k :: done))) keys fields)
    (hv : List.Forall₂ gives (keys.take values.length) values) :
    Run (fun st p mid => (!st.1.isEmpty) = true ∧ Accepts (fieldItem st) p mid) (fields, state done) values
      (fields.drop values.length, state ((keys.take values.length).reverse ++ done)) := by
  induction values generalizing keys fields done with
  | nil => rfl
  | cons v values ih =>
    cases hf with
    | nil => cases hv
    | @cons k f keys fields hkf hf =>
      rw [List.length_cons, List.take_succ_cons, List.forall₂_cons] at hv
      refine ⟨(fields, state (k :: done)), ⟨rfl, (hkf done v hv.1).map fun s => (fields, s)⟩, ?_⟩
      simpa using ih (k :: done) hf hv.2

theorem passes_sequence {values : List (List Token)} {keys : List String} {fields : List (σ → UInt8 → Reader σ)}
    (hf : List.Forall₂ (fun k f => ∀ done v, gives k v → Accepts (f (state done)) v (state (k :: done))) keys fields)
    (hv : List.Forall₂ gives (keys.take values.length) values) :
    Passes (sequence fields (state [])) (separated values ++ [mark ']'])
      (pure (state (keys.take values.length).reverse)) := by
  have hp := ((readsRow_itemStep _ _).passes (run_fieldItem [] hf hv)).bind (f := fun s => pure s.2)
  rw [pure_bind, List.append_nil] at hp
  rw [sequence_eq]
  exact hp

end Fields

/-- How a record is read: the state depends on the keys read so far, and each key adds itself. -/
structure ReadsRecord (keys : List String) (gives : String → List Token → Prop) (read : String → σ → Reader σ)
    (fields : List (σ → UInt8 → Reader σ)) (state : List String → σ) : Prop where
  known : ∀ {done k v}, k ∈ keys → k ∉ done → gives k v →
    Leads (read k (state done)) (mark ':' :: v) (pure (state (k :: done)))
  other : ∀ {done k}, k ∉ keys → read k (state done) = skipMember >>= fun _ => pure (state (k :: done))
  inOrder : List.Forall₂ (fun k f => ∀ done v, gives k v → Accepts (f (state done)) v (state (k :: done))) keys fields

section Record
variable {keys : List String} {gives : String → List Token → Prop} {read : String → σ → Reader σ}
  {fields : List (σ → UInt8 → Reader σ)} {state : List String → σ}

theorem ReadsRecord.run_members (h : ReadsRecord keys gives read fields state) {ms : List Member}
    (spelled : ∀ m ∈ ms, SpellsText m.key m.spelling) (given : ∀ m ∈ ms, m.key ∈ keys → gives m.key m.value)
    (other : ∀ m ∈ ms, m.key ∉ keys → IsValue m.value) (done : List String)
    (once : ((done.reverse ++ ms.map (·.key)).filter (· ∈ keys)).Nodup) :
    Run (fun st p mid => (fun _ => true) st ∧ Accepts (member read st) p mid) (state done)
      ((ms.map fun m => (m.spelling, m.value)).map memberOf) (state ((ms.map (·.key)).reverse ++ done)) := by
  induction ms generalizing done with
  | nil => rfl
  | cons m ms ih =>
    refine ⟨state (m.key :: done), ⟨rfl, accepts_member (spelled m List.mem_cons_self) ?_⟩, ?_⟩
    · by_cases hk : m.key ∈ keys
      · refine h.known hk (fun hd => ?_) (given m List.mem_cons_self hk)
        rw [List.filter_append, List.nodup_append] at once
        exact once.2.2 m.key (by simpa using ⟨hd, hk⟩) m.key (by simp [hk]) rfl
      · rw [h.other hk]
        have hs := (leads_skipMember (other m List.mem_cons_self hk)).bind (f := fun _ => pure (state (m.key :: done)))
        rwa [pure_bind] at hs
    · have hrest := ih (fun x hx => spelled x (List.mem_cons_of_mem _ hx))
        (fun x hx => given x (List.mem_cons_of_mem _ hx)) (fun x hx => other x (List.mem_cons_of_mem _ hx))
        (m.key :: done) (by simpa using once)
      simpa using hrest

/-- A record is accepted from an object and from an array, if what comes of it depends on the needed keys alone. -/
theorem ReadsRecord.accepts (h : ReadsRecord keys gives read fields state) {needs : String → Prop} {ts : List Token}
    (hw : WritesRecord keys gives needs ts) (finish : σ → Reader α) {a : α}
    (hfinish : ∀ ks, (∀ k, needs k → k ∈ ks) → finish (state ks) = pure a) {value : UInt8 → Reader α}
    (ho : value (ascii '\x7b') = members read (state []) >>= finish)
    (ha : value (ascii '[') = sequence fields (state []) >>= finish) : Accepts value ts a := by
  cases hw with
  | object ms spelled given other once present =>
    have hrow := ((readsRow_memberStep read).passes
      (h.run_members spelled given other [] (by simpa using once))).bind (f := finish)
    rw [pure_bind, hfinish _ fun k hk => by simpa using present k hk] at hrow
    exact accepts_marked (by decide) (by decide) (ho ▸ hrow)
  | @array values given present =>
    have hrow := (passes_sequence h.inOrder given).bind (f := finish)
    rw [pure_bind, hfinish _ fun k hk => by simpa using present k hk] at hrow
    exact accepts_marked (by decide) (by decide) (ha ▸ hrow)

end Record
end Reader

namespace Document
open Reader

def readFields (e : Entry) (ks : List String) : Fields where
  name := if "name" ∈ ks then some e.name else none
  cpuTime := if "cpu_time" ∈ ks then some e.cpuTime else none
  timeUnit := if "time_unit" ∈ ks then some e.timeUnit else none
  label := if "label" ∈ ks then some e.label else none
  runType := if "run_type" ∈ ks then some e.runType else none

section Entries
variable {denotes : Numeral → Float → Prop} (hd : ∀ n x, denotes n x → n.double? = some x)
include hd

theorem accepts_optional_number {o : Option Float} {v : List Token} (h : GivesOptional (GivesNumber denotes) o v) :
    Accepts (nullable numberValue) v o :=
  accepts_optional (fun _ _ hg => by
    obtain ⟨n, hv, hx⟩ := hg
    exact accepts_number ⟨n, hv, hd n _ hx⟩) h

omit hd in
theorem givesField_cases {e : Entry} {k : String} {v : List Token} (h : GivesField denotes e k v) :
    (k = "name" → GivesText e.name v) ∧ (k = "cpu_time" → GivesOptional (GivesNumber denotes) e.cpuTime v) ∧
      (k = "time_unit" → GivesOptional GivesText e.timeUnit v) ∧ (k = "label" → GivesOptional GivesText e.label v) ∧
      (k = "run_type" → GivesOptional GivesText e.runType v) := by
  cases h <;> simp_all

omit hd in
theorem leads_field {α : Type} {value : UInt8 → Reader α} {v : List Token} {a : α} (h : Accepts value v a)
    {former : Option α} (hn : former = none) (set : α → Fields) :
    Leads (memberValue former value >>= fun a => pure (set a)) (mark ':' :: v) (pure (set a)) := by
  subst hn
  exact (leads_memberValue h).bind

theorem readsRecord_entry (e : Entry) :
    ReadsRecord Entry.keys (GivesField denotes e) field fieldsInOrder (readFields e) where
  known {done k v} _ hn hg := by
    cases hg with
    | name hv =>
      have hm := leads_field (accepts_text hv) rfl fun s => { readFields e done with name := some s }
      simpa [field, readFields, hn] using hm
    | cpuTime hv =>
      have hm := leads_field (accepts_optional_number hd hv) rfl fun x => { readFields e done with cpuTime := some x }
      simpa [field, readFields, hn] using hm
    | timeUnit hv =>
      have hm := leads_field (accepts_optional_text hv) rfl fun s => { readFields e done with timeUnit := some s }
      simpa [field, readFields, hn] using hm
    | label hv =>
      have hm := leads_field (accepts_optional_text hv) rfl fun s => { readFields e done with label := some s }
      simpa [field, readFields, hn] using hm
    | runType hv =>
      have hm := leads_field (accepts_optional_text hv) rfl fun s => { readFields e done with runType := some s }
      simpa [field, readFields, hn] using hm
  other {done k} hk := by
    simp only [Entry.keys, List.mem_cons, List.not_mem_nil, or_false, not_or] at hk
    obtain ⟨h₁, h₂, h₃, h₄, h₅⟩ := hk
    simp [field, readFields, h₁, h₂, h₃, h₄, h₅, Ne.symm h₁, Ne.symm h₂, Ne.symm h₃, Ne.symm h₄, Ne.symm h₅]
  inOrder := by
    refine .cons (fun done v hg => ?_) (.cons (fun done v hg => ?_) (.cons (fun done v hg => ?_)
      (.cons (fun done v hg => ?_) (.cons (fun done v hg => ?_) .nil))))
    · have hv := accepts_text ((givesField_cases hg).1 rfl)
      simpa [readFields] using hv.map fun s => { readFields e done with name := some s }
    · have hv := accepts_optional_number hd ((givesField_cases hg).2.1 rfl)
      simpa [readFields] using hv.map fun x => { readFields e done with cpuTime := some x }
    · have hv := accepts_optional_text ((givesField_cases hg).2.2.1 rfl)
      simpa [readFields] using hv.map fun s => { readFields e done with timeUnit := some s }
    · have hv := accepts_optional_text ((givesField_cases hg).2.2.2.1 rfl)
      simpa [readFields] using hv.map fun s => { readFields e done with label := some s }
    · have hv := accepts_optional_text ((givesField_cases hg).2.2.2.2 rfl)
      simpa [readFields] using hv.map fun s => { readFields e done with runType := some s }

omit hd in
/-- What has been left out of an entry is absent in it. -/
theorem entry_readFields {e : Entry} {ks : List String} (h : ∀ k, e.Needs k → k ∈ ks) :
    (readFields e ks).entry = pure e := by
  have habsent : ∀ {α : Type} (o : Option α) {k : String}, (o.isSome → k ∈ ks) →
      (if k ∈ ks then some o else none).join = o := by
    intro α o k hk
    by_cases hm : k ∈ ks
    · rw [if_pos hm]
      rfl
    · cases o with
      | none => rw [if_neg hm]; rfl
      | some a => exact absurd (hk rfl) hm
  have hname : (readFields e ks).name = some e.name := if_pos (h "name" .name)
  rw [Fields.entry, hname]
  simp only [readFields, habsent e.cpuTime fun hs => h _ (.cpuTime hs), habsent e.timeUnit fun hs => h _ (.timeUnit hs),
    habsent e.label fun hs => h _ (.label hs), habsent e.runType fun hs => h _ (.runType hs)]

theorem accepts_entry {e : Entry} {v : List Token} (h : WritesEntry denotes e v) : Accepts entry v e :=
  (readsRecord_entry hd e).accepts h Fields.entry (fun _ => entry_readFields) rfl rfl

theorem accepts_entries {es : List Entry} {v : List Token} (h : WritesEntries denotes es v) : Accepts entries v es := by
  obtain ⟨values, hv, rfl⟩ := h
  exact accepts_marked (by decide) (by decide) (passes_list (hv.imp fun _ _ => accepts_entry hd))

theorem accepts_document {es : List Entry} {ts : List Token} (h : WritesDocument denotes es ts) :
    Accepts document ts es := by
  have hr : ReadsRecord ["benchmarks"] (fun _ => WritesEntries denotes es) benchmarks
      [fun _ b => some <$> entries b] (fun ks => if "benchmarks" ∈ ks then some es else none) := by
    refine ⟨fun {done k v} hk hn hg => ?_, fun {done k} hk => ?_, .cons (fun done v hg => ?_) .nil⟩
    · rw [List.mem_singleton] at hk
      subst hk
      have hb := (leads_memberValue (accepts_entries hd hg)).bind (f := fun es => pure (some es))
      simpa [benchmarks, hn] using hb
    · rw [List.mem_singleton] at hk
      simp [benchmarks, hk, Ne.symm hk]
    · simpa using (accepts_entries hd hg).map some
  refine hr.accepts h (fun o => pure (o.getD [])) (fun ks hks => ?_) rfl rfl
  by_cases hm : "benchmarks" ∈ ks
  · simp [hm]
  · have hes : es = [] := by
      by_contra hne
      exact hm (hks "benchmarks" ⟨rfl, hne⟩)
    simp [hm, hes]

theorem read_of_writes {es : List Entry} {s : Bytes} (h : Writes denotes es s) : read s = .ok es := by
  obtain ⟨ts, hts, hs⟩ := h
  obtain ⟨s', hs', hr⟩ := (accepts_document hd hts).leads [] s (by simp [Closes]) (by simpa using hs)
  cases hs' with
  | done hb =>
    have hblank : s'.dropWhile isBlank = [] := List.dropWhile_eq_nil_iff.2 (isBlank_of_isBlanks hb)
    rw [read, hr]
    exact if_pos hblank

end Entries

/-- Every writing of a list of entries is read as these entries, in their order, where a numeral stands for the double
that its digits are read as. A numeral of less than 53 bits, up to 22 places from the point, is read as the double
nearest to it. -/
theorem read_undoes_writing :
    (∀ es s, Writes (fun n x => n.double? = some x) es s → read s = .ok es) ∧
    ∀ n : Numeral, n.coefficient < 2 ^ 53 → (n.exponent - n.places.length).natAbs ≤ 22 →
      ∃ x, n.double? = some x ∧ IsNearest x n.value :=
  ⟨fun _ _ h => read_of_writes (fun _ _ hx => hx) h, fun _ hc he => Numeral.exists_isNearest hc he⟩

/-- A document with a key of no interest, an array for an entry, and an object with an escape in a key. -/
theorem read_undoes_writing_mixed :
    let s := utf8Bytes
      "\x7b\"x\":[[]],\"benchmarks\":[[\"a\"],\x7b\"cpu_time\":1.25,\"na\\u006De\":\"b\"\x7d]\x7d"
    ∃ x, read s = .ok [⟨"a", none, none, none, none⟩, ⟨"b", some x, none, none, none⟩] ∧ IsNearest x (5 / 4) := by
  intro s
  let n : Numeral := ⟨false, [1], [2, 5], none, by decide, by decide⟩
  obtain ⟨x, hx, hnear⟩ := read_undoes_writing.2 n (by decide) (by decide)
  have hvalue : n.value = 5 / 4 := by
    have hdigits : ofDecimalDigits (n.whole ++ n.places) = 125 := by decide
    rw [Numeral.value, hdigits]
    norm_num [n, Numeral.exponent]
  let key : Token := utf8Bytes "\"na\\u006De\""
  let second : List Token := objectOf [(plainText "cpu_time", [n.bytes]), (key, [plainText "b"])]
  let ts : List Token := objectOf [(plainText "x", arrayOf [arrayOf []]),
    (plainText "benchmarks", arrayOf [arrayOf [[plainText "a"]], second])]
  have hx' : SpellsText "x" (plainText "x") := spellsText_plain (by decide +kernel)
  have hbenchmarks : SpellsText "benchmarks" (plainText "benchmarks") := spellsText_plain (by decide +kernel)
  have htime : SpellsText "cpu_time" (plainText "cpu_time") := spellsText_plain (by decide +kernel)
  have ha : SpellsText "a" (plainText "a") := spellsText_plain (by decide +kernel)
  have hb : SpellsText "b" (plainText "b") := spellsText_plain (by decide +kernel)
  have hkey : SpellsText "name" key := by
    have hm : IsHex 'm'.toNat (['0', '0', '6', 'D'].map ascii) :=
      .digits (k := 0) (l := 0) (m := 6) (n := 13) (by decide) (by decide) (by decide) (by decide)
    exact ⟨_, .cons (.literal (by decide) (by decide) (by decide)) (.cons (.literal (by decide) (by decide) (by decide))
      (.cons (.numbered hm) (.cons (.literal (by decide) (by decide) (by decide)) .nil))), by decide +kernel⟩
  have hfirst : WritesEntry (fun n x => n.double? = some x) ⟨"a", none, none, none, none⟩
      (arrayOf [[plainText "a"]]) :=
    .array (.cons (.name ⟨_, rfl, ha⟩) .nil) fun k hk => by
      cases hk with
      | name => decide
      | cpuTime h | timeUnit h | label h | runType h => cases h
  have hsecond : WritesEntry (fun n x => n.double? = some x) ⟨"b", some x, none, none, none⟩ second := by
    refine .object [⟨"cpu_time", _, _⟩, ⟨"name", _, _⟩] (List.forall_mem_cons.2 ⟨htime, ?_⟩)
      (List.forall_mem_cons.2 ⟨fun _ => .cpuTime (.present ⟨n, rfl, hx⟩), ?_⟩)
      (List.forall_mem_cons.2 ⟨fun h => absurd (by decide) h, ?_⟩) (by decide) fun k hk => ?_
    · exact List.forall_mem_singleton.2 hkey
    · exact List.forall_mem_singleton.2 fun _ => .name ⟨_, rfl, hb⟩
    · exact List.forall_mem_singleton.2 fun h => absurd (by decide) h
    · cases hk with
      | name | cpuTime => decide
      | timeUnit h | label h | runType h => cases h
  have hdocument : WritesDocument (fun n x => n.double? = some x)
      [⟨"a", none, none, none, none⟩, ⟨"b", some x, none, none, none⟩] ts := by
    refine .object [⟨"x", _, _⟩, ⟨"benchmarks", _, _⟩] (List.forall_mem_cons.2 ⟨hx', ?_⟩)
      (List.forall_mem_cons.2 ⟨fun h => absurd h (by decide), ?_⟩)
      (List.forall_mem_cons.2 ⟨fun _ => .array (List.forall_mem_singleton.2 (.array (List.forall_mem_nil _))), ?_⟩)
      (by decide) fun k hk => ?_
    · exact List.forall_mem_singleton.2 hbenchmarks
    · exact List.forall_mem_singleton.2 fun _ => ⟨_, .cons hfirst (.cons hsecond .nil), rfl⟩
    · exact List.forall_mem_singleton.2 fun h => absurd (by decide) h
    · rw [hk.1]
      decide
  have hs : s = ts.flatten := by
    decide +kernel
  exact ⟨x, read_undoes_writing.1 _ s ⟨ts, hdocument, hs ▸ spaced_flatten ts⟩, hvalue ▸ hnear⟩

/-- Seventeen digits are cut to a double before they are divided, so that the double after the one read is nearer. -/
theorem read_ne_nearest :
    let s := utf8Bytes "\x7b\"benchmarks\":[\x7b\"name\":\"a\",\"cpu_time\":44688.231807116244\x7d]\x7d"
    let es : List Entry := [⟨"a", some (Float.ofBits 0x40e5d2076af6c1e8), none, none, none⟩]
    Writes (fun n x => IsNearest x n.value) es s ∧ read s ≠ .ok es := by
  intro s es
  let n : Numeral := ⟨false, [4, 4, 6, 8, 8], [2, 3, 1, 8, 0, 7, 1, 1, 6, 2, 4, 4], none, by decide, by decide⟩
  have hvalue : n.value = 44688.231807116244 := by
    have hdigits : ofDecimalDigits (n.whole ++ n.places) = 44688231807116244 := by decide
    rw [Numeral.value, hdigits]
    norm_num [n, Numeral.exponent]
  have hnear : IsNearest (Float.ofBits 0x40e5d2076af6c1e8) n.value := by
    have hrounds : Rounds (Float.ofBits 0x40e5d2076af6c1e8) .positive n.value
        6141903812084200 (-37) 6141903812084200 (-37) := by
      rw [hvalue]
      refine ⟨⟨by decide, by rfl⟩, by decide, by decide, by decide, by decide, rfl, ?_, ?_, fun _ => by decide⟩
      · norm_num
      · norm_num [abs_le]
    have hn := hrounds.isNearest
    rwa [signFactor, one_mul] at hn
  let members : List (Token × List Token) :=
    [(plainText "name", [plainText "a"]), (plainText "cpu_time", [n.bytes])]
  let ts : List Token := objectOf [(plainText "benchmarks", arrayOf [objectOf members])]
  have hbenchmarks : SpellsText "benchmarks" (plainText "benchmarks") := spellsText_plain (by decide +kernel)
  have hname : SpellsText "name" (plainText "name") := spellsText_plain (by decide +kernel)
  have htime : SpellsText "cpu_time" (plainText "cpu_time") := spellsText_plain (by decide +kernel)
  have ha : SpellsText "a" (plainText "a") := spellsText_plain (by decide +kernel)
  have hentry : WritesEntry (fun n x => IsNearest x n.value)
      ⟨"a", some (Float.ofBits 0x40e5d2076af6c1e8), none, none, none⟩ (objectOf members) := by
    refine .object [⟨"name", _, _⟩, ⟨"cpu_time", _, _⟩] (List.forall_mem_cons.2 ⟨hname, ?_⟩)
      (List.forall_mem_cons.2 ⟨fun _ => .name ⟨_, rfl, ha⟩, ?_⟩)
      (List.forall_mem_cons.2 ⟨fun h => absurd (by decide) h, ?_⟩) (by decide) fun k hk => ?_
    · exact List.forall_mem_singleton.2 htime
    · exact List.forall_mem_singleton.2 fun _ => .cpuTime (.present ⟨n, rfl, hnear⟩)
    · exact List.forall_mem_singleton.2 fun h => absurd (by decide) h
    · cases hk with
      | name | cpuTime => decide
      | timeUnit h | label h | runType h => cases h
  have hdocument : WritesDocument (fun n x => IsNearest x n.value) es ts := by
    refine .object [⟨"benchmarks", _, _⟩] (List.forall_mem_singleton.2 hbenchmarks)
      (List.forall_mem_singleton.2 fun _ => ⟨_, .cons hentry .nil, rfl⟩)
      (List.forall_mem_singleton.2 fun h => absurd (by decide) h) (by decide) fun k hk => ?_
    rw [hk.1]
    decide
  have hs : s = ts.flatten := by
    decide +kernel
  refine ⟨⟨ts, hdocument, hs ▸ spaced_flatten ts⟩, fun h => ?_⟩
  have hread : (read s).toOption.map (·.map fun e => e.cpuTime.map Float.toBits) =
      some [some 0x40e5d2076af6c1e7] := by
    decide +kernel
  rw [h] at hread
  exact absurd hread (by decide +kernel)

end Document
end CodecBench
