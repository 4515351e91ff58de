import CodecBench.ChartFolder
import CodecBench.Proofs.Shortest
/-!
What the texts of charts are. A chart is written as an object of its parts, each under its key: texts, arrays of texts,
and bars, which are numerals that the double is nearest to or null (`Chart.Gives`). The text of a chart is such an
object, however it is indented (`ChartFolder.isWriting_content`).
-/

namespace CodecBench

theorem Spaced.blanks {blanks s : Bytes} {ts : List Token} (hb : IsBlanks blanks) (h : Spaced ts s) :
    Spaced ts (blanks ++ s) := by
  have happend : ∀ {more : Bytes}, IsBlanks more → IsBlanks (blanks ++ more) := fun hm b hmem =>
    (List.mem_append.1 hmem).elim (hb b) (hm b)
  cases h with
  | done hm => exact .done (happend hm)
  | token hm hs =>
    rw [← List.append_assoc]
    exact .token (happend hm) hs

/-- Bytes that put these tokens before any others. -/
def Lays (ts : List Token) (bytes : Bytes) : Prop := ∀ rest s, Spaced rest s → Spaced (ts ++ rest) (bytes ++ s)

namespace Lays

theorem blanks {bytes : Bytes} (h : IsBlanks bytes) : Lays [] bytes := fun _ _ hs => hs.blanks h

theorem token (t : Token) : Lays [t] t := fun _ _ hs => .token (show IsBlanks [] from nofun) hs

theorem append {ts us : List Token} {bytes bytes' : Bytes} (h : Lays ts bytes) (h' : Lays us bytes') :
    Lays (ts ++ us) (bytes ++ bytes') := by
  intro rest s hs
  rw [List.append_assoc, List.append_assoc]
  exact h _ _ (h' rest s hs)

theorem spaced {ts : List Token} {bytes : Bytes} (h : Lays ts bytes) : Spaced ts bytes := by
  have hs := h [] [] (.done nofun)
  rwa [List.append_nil, List.append_nil] at hs

end Lays

def GivesArray {α : Type} (gives : α → List Token → Prop) (as : List α) (v : List Token) : Prop :=
  ∃ values, List.Forall₂ gives as values ∧ v = arrayOf values

def GivesObject (parts : List (String × (List Token → Prop))) (v : List Token) : Prop :=
  ∃ members : List (Token × List Token),
    List.Forall₂ (fun p m => SpellsText p.1 m.1 ∧ p.2 m.2) parts members ∧ v = objectOf members

/-- A bar is null if it is absent, and also if it is not finite. -/
inductive GivesBar : Option Float → List Token → Prop
  | absent : GivesBar none [utf8Bytes "null"]
  | infinite {x : Float} : ¬ x.isFinite → GivesBar (some x) [utf8Bytes "null"]
  | finite {x : Float} {n : Numeral} : x.isFinite → n.negative = signBit x → IsNearest x n.value →
    GivesBar (some x) [n.bytes]

namespace Chart

def GivesBars (kind : String) (b : Bars) : List Token → Prop :=
  GivesObject [("chart", GivesText kind), ("id", GivesText b.id), ("title", GivesText b.title),
    ("legend", GivesArray GivesText ["Encode", "Decode"]), ("encode", GivesArray GivesBar b.encode),
    ("decode", GivesArray GivesBar b.decode), ("names", GivesArray GivesText b.names)]

def GivesSeries (s : Series) : List Token → Prop :=
  GivesObject [("variant", GivesText s.variant), ("values", GivesArray GivesBar (s.values.map some))]

def Gives : Chart → List Token → Prop
  | .category b => GivesBars "category" b
  | .overall b => GivesBars "overall" b
  | .comparison g =>
    GivesObject [("chart", GivesText "comparison"), ("id", GivesText g.id), ("title", GivesText g.title),
      ("baseline", GivesText g.baseline), ("subjects", GivesArray GivesText g.subjects),
      ("series", GivesArray GivesSeries g.series)]

/-- The bytes are a document of this chart. -/
def IsWriting (c : Chart) (s : Bytes) : Prop := ∃ ts, c.Gives ts ∧ Spaced ts s

end Chart

namespace Json

theorem escape_cases (c : Char) :
    (∃ letter, (c, letter) ∈ shortEscapes ∧ escape c = ['\\', letter]) ∨
    (c.toNat < 32 ∧
      escape c = ['\\', 'u', '0', '0', Nat.digitChar (c.toNat / 16), Nat.digitChar (c.toNat % 16)]) ∨
    (32 ≤ c.toNat ∧ c ≠ '"' ∧ c ≠ '\\' ∧ escape c = [c]) := by
  have hshort : ∀ d letter : Char, (d, letter) ∈ shortEscapes → c = d → (c, letter) ∈ shortEscapes := by
    rintro d letter h rfl
    exact h
  unfold escape
  split
  · exact .inl ⟨'"', hshort '"' '"' (by decide) ‹_›, rfl⟩
  split
  · exact .inl ⟨'\\', hshort '\\' '\\' (by decide) ‹_›, rfl⟩
  split
  · exact .inl ⟨'n', hshort '\n' 'n' (by decide) ‹_›, rfl⟩
  split
  · exact .inl ⟨'r', hshort '\r' 'r' (by decide) ‹_›, rfl⟩
  split
  · exact .inl ⟨'t', hshort '\t' 't' (by decide) ‹_›, rfl⟩
  split
  · exact .inl ⟨'b', hshort '\x08' 'b' (by decide) (Char.toNat_inj.1 ‹_›), rfl⟩
  split
  · exact .inl ⟨'f', hshort '\x0c' 'f' (by decide) (Char.toNat_inj.1 ‹_›), rfl⟩
  split
  · exact .inr (.inl ⟨‹_›, rfl⟩)
  · exact .inr (.inr ⟨Nat.le_of_not_lt ‹_›, ‹_›, ‹_›, rfl⟩)

theorem utf8EncodeChar_hexDigit {n : Nat} (h : n < 16) :
    String.utf8EncodeChar n.digitChar = [ascii n.digitChar] ∧ IsHexDigit n (ascii n.digitChar) := by
  revert n
  decide

theorem spellsChar_escape (c : Char) : SpellsChar c ((escape c).flatMap String.utf8EncodeChar) := by
  obtain ⟨letter, hmem, he⟩ | ⟨hlt, he⟩ | ⟨hle, hquote, hslash, he⟩ := escape_cases c
  · have hbytes : ∀ p ∈ shortEscapes, ['\\', p.2].flatMap String.utf8EncodeChar = [ascii '\\', ascii p.2] := by
      decide
    rw [he, hbytes _ hmem]
    exact .short hmem
  · obtain ⟨hhigh, hhigh'⟩ := utf8EncodeChar_hexDigit (n := c.toNat / 16) (by omega)
    obtain ⟨hlow, hlow'⟩ := utf8EncodeChar_hexDigit (n := c.toNat % 16) (by omega)
    have hzero : IsHexDigit 0 (ascii '0') := by decide
    have hnumber : ((0 * 16 + 0) * 16 + c.toNat / 16) * 16 + c.toNat % 16 = c.toNat := by omega
    have hhex := IsHex.digits hzero hzero hhigh' hlow'
    have hfront : ['\\', 'u', '0', '0'].flatMap String.utf8EncodeChar = ['\\', 'u', '0', '0'].map ascii := by decide
    rw [hnumber] at hhex
    have hspells := SpellsChar.numbered hhex
    rw [he, show ∀ a b : Char, ['\\', 'u', '0', '0', a, b] = ['\\', 'u', '0', '0'] ++ [a] ++ [b] from fun _ _ => rfl,
      List.flatMap_append, List.flatMap_append, hfront, List.flatMap_singleton, List.flatMap_singleton, hhigh, hlow]
    exact hspells
  · rw [he]
    simpa using SpellsChar.literal hle hquote hslash

theorem spellsText_stringText (s : String) : SpellsText s (utf8Bytes (stringText s)) := by
  refine ⟨s.toList.map fun c => (escape c).flatMap String.utf8EncodeChar, ?_, ?_⟩
  · rw [List.forall₂_map_right_iff, List.forall₂_same]
    exact fun c _ => spellsChar_escape c
  · have hquote : String.utf8EncodeChar '"' = [ascii '"'] := by decide
    rw [stringText, utf8Bytes_ofList, List.flatMap_append, List.flatMap_cons, List.flatMap_assoc,
      List.flatMap_singleton, hquote, List.flatMap_def]
    rfl

/-- However deep a value is, it is printed as tokens that give what it should. -/
def Prints (j : Json) (gives : List Token → Prop) : Prop :=
  ∀ depth, ∃ ts, gives ts ∧ Lays ts (utf8Bytes (j.pretty depth))

theorem lays_indent (depth : Nat) : Lays [] (utf8Bytes (indent depth)) := by
  have hbytes : utf8Bytes (indent depth) = ascii '\n' :: List.replicate (2 * depth) (ascii ' ') := by
    have hline : String.utf8EncodeChar '\n' = [ascii '\n'] := by decide
    have hspace : String.utf8EncodeChar ' ' = [ascii ' '] := by decide
    rw [indent, utf8Bytes_ofList, List.flatMap_cons, hline, List.flatMap_replicate, hspace]
    simp
  refine .blanks fun b hb => ?_
  rw [hbytes, List.mem_cons] at hb
  obtain rfl | hb := hb
  · decide
  · rw [List.eq_of_mem_replicate hb]
    decide

theorem prints_string (s : String) : Prints (.string s) (GivesText s) := fun depth => by
  rw [pretty]
  exact ⟨_, ⟨_, rfl, spellsText_stringText s⟩, .token _⟩

theorem prints_bar (o : Option Float) : Prints (Chart.bar o) (GivesBar o) := by
  intro depth
  cases o with
  | none =>
    rw [Chart.bar, pretty]
    exact ⟨_, .absent, .token _⟩
  | some x =>
    rw [Chart.bar, pretty]
    by_cases h : x.isFinite
    · obtain ⟨n, hn, hsign, hnearest⟩ := exists_numeral_of_isFinite h
      exact ⟨_, .finite h hsign hnearest, hn ▸ .token _⟩
    · rw [numberText, if_neg h]
      exact ⟨_, .infinite h, .token _⟩

section Rows
variable {α : Type} {f : α → Json} {gives : α → List Token → Prop}

theorem exists_items {as : List α} (h : ∀ a ∈ as, Prints (f a) (gives a)) (depth : Nat) :
    ∃ values, List.Forall₂ gives as values ∧
      Lays (values.flatMap (mark ',' :: ·)) (utf8Bytes (prettyItems depth (as.map f))) := by
  induction as with
  | nil => exact ⟨[], .nil, by rw [List.map_nil, prettyItems]; exact .blanks nofun⟩
  | cons a as ih =>
    obtain ⟨values, hvalues, hrest⟩ := ih fun b hb => h b (List.mem_cons_of_mem _ hb)
    obtain ⟨v, hv, hlays⟩ := h a List.mem_cons_self depth
    refine ⟨v :: values, .cons hv hvalues, ?_⟩
    rw [List.map_cons, prettyItems]
    simp only [utf8Bytes_append]
    exact (((Lays.token (mark ',')).append (lays_indent depth)).append hlays).append hrest

theorem prints_array {as : List α} (h : ∀ a ∈ as, Prints (f a) (gives a)) :
    Prints (.array (as.map f)) (GivesArray gives as) := by
  intro depth
  cases as with
  | nil =>
    rw [List.map_nil, pretty]
    exact ⟨_, ⟨[], .nil, rfl⟩, (Lays.token (mark '[')).append (.token (mark ']'))⟩
  | cons a as =>
    obtain ⟨v, hv, hlays⟩ := h a List.mem_cons_self (depth + 1)
    obtain ⟨values, hvalues, hrest⟩ := exists_items (fun b hb => h b (List.mem_cons_of_mem _ hb)) (depth + 1)
    refine ⟨_, ⟨v :: values, .cons hv hvalues, rfl⟩, ?_⟩
    have hopen : utf8Bytes "[" = mark '[' := by decide
    have hclose : utf8Bytes "]" = mark ']' := by decide
    have hrow := ((lays_indent (depth + 1)).append hlays).append (hrest.append (lays_indent depth))
    rw [List.map_cons, pretty]
    simpa [arrayOf, separated, hopen, hclose] using
      ((Lays.token (mark '[')).append hrow).append (.token (mark ']'))

end Rows

def PrintsPart (member : String × Json) (part : String × (List Token → Prop)) : Prop :=
  member.1 = part.1 ∧ Prints member.2 part.2

theorem exists_member {member : String × Json} {part : String × (List Token → Prop)} (h : PrintsPart member part)
    (depth : Nat) : ∃ m : Token × List Token, (SpellsText part.1 m.1 ∧ part.2 m.2) ∧
      Lays (memberOf m) (utf8Bytes (stringText member.1 ++ ": " ++ pretty depth member.2)) := by
  obtain ⟨hkey, hvalue⟩ := h
  obtain ⟨v, hv, hlays⟩ := hvalue depth
  have hspells : SpellsText part.1 (utf8Bytes (stringText member.1)) := by
    rw [hkey]
    exact spellsText_stringText _
  refine ⟨(utf8Bytes (stringText member.1), v), ⟨hspells, hv⟩, ?_⟩
  have hcolon : utf8Bytes ": " = mark ':' ++ [ascii ' '] := by decide
  have hblank : IsBlanks [ascii ' '] := by
    intro b hb
    rw [List.mem_singleton.1 hb]
    decide
  simpa [memberOf, hcolon] using
    (Lays.token _).append ((Lays.token (mark ':')).append ((Lays.blanks hblank).append hlays))

theorem exists_members {members : List (String × Json)} {parts : List (String × (List Token → Prop))}
    (h : List.Forall₂ PrintsPart members parts) (depth : Nat) :
    ∃ ms : List (Token × List Token), List.Forall₂ (fun p m => SpellsText p.1 m.1 ∧ p.2 m.2) parts ms ∧
      Lays ((ms.map memberOf).flatMap (mark ',' :: ·)) (utf8Bytes (prettyMembers depth members)) := by
  induction h with
  | nil => exact ⟨[], .nil, by rw [prettyMembers]; exact .blanks nofun⟩
  | @cons member part members parts hp _ ih =>
    obtain ⟨ms, hms, hrest⟩ := ih
    obtain ⟨m, hm, hlays⟩ := exists_member hp depth
    refine ⟨m :: ms, .cons hm hms, ?_⟩
    have hcomma : utf8Bytes "," = mark ',' := by decide
    rw [prettyMembers]
    simpa [hcomma] using (((Lays.token (mark ',')).append (lays_indent depth)).append hlays).append hrest

theorem prints_object {members : List (String × Json)} {parts : List (String × (List Token → Prop))}
    (h : List.Forall₂ PrintsPart members parts) : Prints (.object members) (GivesObject parts) := by
  intro depth
  cases h with
  | nil =>
    rw [pretty]
    exact ⟨_, ⟨[], .nil, rfl⟩, (Lays.token (mark '\x7b')).append (.token (mark '\x7d'))⟩
  | @cons member part members parts hp hrest =>
    obtain ⟨m, hm, hlays⟩ := exists_member hp (depth + 1)
    obtain ⟨ms, hms, hrest⟩ := exists_members hrest (depth + 1)
    refine ⟨_, ⟨m :: ms, .cons hm hms, rfl⟩, ?_⟩
    have hopen : utf8Bytes "\x7b" = mark '\x7b' := by decide
    have hclose : utf8Bytes "\x7d" = mark '\x7d' := by decide
    have hrow := ((lays_indent (depth + 1)).append hlays).append (hrest.append (lays_indent depth))
    rw [pretty]
    simpa [objectOf, separated, hopen, hclose] using
      ((Lays.token (mark '\x7b')).append hrow).append (.token (mark '\x7d'))

end Json

namespace Chart

open Json

theorem prints_strings (ss : List String) : Prints (strings ss) (GivesArray GivesText ss) :=
  prints_array fun s _ => prints_string s

theorem prints_bars (bs : List (Option Float)) : Prints (.array (bs.map bar)) (GivesArray GivesBar bs) :=
  prints_array fun o _ => prints_bar o

theorem prints_barsJson (kind : String) (b : Bars) : Prints (barsJson kind b) (GivesBars kind b) :=
  prints_object (.cons ⟨rfl, prints_string _⟩ (.cons ⟨rfl, prints_string _⟩ (.cons ⟨rfl, prints_string _⟩
    (.cons ⟨rfl, prints_strings _⟩ (.cons ⟨rfl, prints_bars _⟩ (.cons ⟨rfl, prints_bars _⟩
      (.cons ⟨rfl, prints_strings _⟩ .nil)))))))

theorem prints_seriesJson (s : Series) : Prints (seriesJson s) (GivesSeries s) := by
  have hvalues : Prints (.array (s.values.map .number)) (GivesArray GivesBar (s.values.map some)) := by
    have h := prints_bars (s.values.map some)
    rwa [List.map_map] at h
  exact prints_object (.cons ⟨rfl, prints_string _⟩ (.cons ⟨rfl, hvalues⟩ .nil))

theorem prints_toJson (c : Chart) : c.toJson.Prints c.Gives := by
  cases c with
  | category b => exact prints_barsJson "category" b
  | overall b => exact prints_barsJson "overall" b
  | comparison g =>
    exact prints_object (.cons ⟨rfl, prints_string _⟩ (.cons ⟨rfl, prints_string _⟩ (.cons ⟨rfl, prints_string _⟩
      (.cons ⟨rfl, prints_string _⟩ (.cons ⟨rfl, prints_strings _⟩
        (.cons ⟨rfl, prints_array fun s _ => prints_seriesJson s⟩ .nil))))))

end Chart

theorem ChartFolder.isWriting_content (c : Chart) : c.IsWriting (utf8Bytes (content c)) := by
  obtain ⟨ts, hts, hlays⟩ := c.prints_toJson 0
  refine ⟨ts, hts, ?_⟩
  have hline : IsBlanks (utf8Bytes "\n") := by
    intro b hb
    rw [show utf8Bytes "\n" = [ascii '\n'] by decide, List.mem_singleton] at hb
    rw [hb]
    decide
  rw [content, utf8Bytes_append]
  simpa using (hlays.append (.blanks hline)).spaced

end CodecBench
