import Mathlib.Data.List.Basic
import WindowActions.Proofs.Json.Layout
import WindowActions.Proofs.Text.Digits

/-!
# Reading what has been written

A JSON text that has been written is read again as the value that it is the text of, in either
layout. This takes a value whose numbers are written as they are, natural ones below the limit of a
word, and that is not nested more deeply than the reader goes: `Json.Fits`. The text of a value ends
where the reader ends if what stands behind it does not continue a number.

`Json.Reads` says that a reader takes a value from the start of a text and what it leaves. Each
reader has a lemma for the text that the writer gives it.
-/

namespace WindowActions

namespace Json

mutual

/-- A reader of so many levels of containers gives back the value. -/
def Fits (levels : Nat) : Json → Prop
  | .integer n => ∃ k : Nat, n = k ∧ k < wordLimit
  | .real _ => False
  | .array items => 0 < levels ∧ itemsFit (levels - 1) items
  | .object fields => 0 < levels ∧ fieldsFit (levels - 1) fields
  | _ => True

def itemsFit (levels : Nat) : List Json → Prop
  | [] => True
  | item :: items => item.Fits levels ∧ itemsFit levels items

def fieldsFit (levels : Nat) : List (String × Json) → Prop
  | [] => True
  | ⟨_, value⟩ :: fields => value.Fits levels ∧ fieldsFit levels fields

end

theorem fits_array {levels : Nat} {items : List Json} (h : (Json.array items).Fits levels) :
    ∃ deeper, levels = deeper + 1 ∧ itemsFit deeper items := by
  obtain ⟨hpos, hitems⟩ := h
  obtain ⟨deeper, rfl⟩ := Nat.exists_eq_add_one.2 hpos
  exact ⟨deeper, rfl, hitems⟩

theorem fits_object {levels : Nat} {fields : List (String × Json)}
    (h : (Json.object fields).Fits levels) :
    ∃ deeper, levels = deeper + 1 ∧ fieldsFit deeper fields := by
  obtain ⟨hpos, hfields⟩ := h
  obtain ⟨deeper, rfl⟩ := Nat.exists_eq_add_one.2 hpos
  exact ⟨deeper, rfl, hfields⟩

/-- A reader takes a value from the start of a text and leaves the rest. -/
def Reads {α : Type} (read : CharReader α) (cs : List Char) (value : α) (rest : List Char) : Prop :=
  ∃ shorter, read cs = some ⟨value, rest, shorter⟩

variable {cs rest : List Char} {c : Char}

section Blanks

theorem skipSpace_append {blank : List Char} (h : Blank blank) (cs : List Char) :
    skipSpace (blank ++ cs) = skipSpace cs := by
  induction blank with
  | nil => rfl
  | cons c blank ih =>
      rw [List.cons_append, skipSpace, if_pos (h c List.mem_cons_self)]
      exact ih fun d hd => h d (List.mem_cons_of_mem c hd)

theorem skipSpace_cons (h : isSpace c = false) (cs : List Char) :
    skipSpace (c :: cs) = c :: cs := by
  rw [skipSpace, h, if_neg Bool.false_ne_true]

theorem skipSpace_blank_cons {blank : List Char} (hblank : Blank blank) (h : isSpace c = false)
    (cs : List Char) : skipSpace (blank ++ c :: cs) = c :: cs := by
  rw [skipSpace_append hblank, skipSpace_cons h]

theorem reads_mark {mark : Char} (h : skipSpace cs = mark :: rest) :
    Reads (readMark mark) cs () rest := by
  have hle := length_skipSpace_le cs
  rw [h] at hle
  refine ⟨hle, ?_⟩
  rw [readMark]
  split
  case h_1 hnil =>
      rw [h] at hnil
      cases hnil
  case h_2 hcons =>
      rw [h] at hcons
      cases hcons
      rw [if_pos rfl]

theorem readMark_eq_none {mark : Char} (h : skipSpace cs = c :: rest) (hne : c ≠ mark) :
    readMark mark cs = none := by
  rw [readMark]
  split
  case h_1 => rfl
  case h_2 hcons =>
      rw [h] at hcons
      cases hcons
      rw [if_neg hne]

end Blanks

section Strings

theorem codeUnit?_digitChar :
    ∀ n < 0x10, codeUnit? '0' '0' '0' (Nat.digitChar n) = some n ∧
      codeUnit? '0' '0' '1' (Nat.digitChar n) = some (0x10 + n) := by
  decide

theorem reads_unit {a b d e : Char} (hcode : codeUnit? a b d e = some c.toNat)
    (hcontrol : c.toNat < 0x20) (rest : List Char) :
    Reads readChar ('\\' :: 'u' :: a :: b :: d :: e :: rest) c rest := by
  have hunit : unitChar? c.toNat = some c := by
    rw [unitChar?, if_pos (Or.inl (by omega)), Char.ofNat_toNat]
  have hescape : Reads readEscape ('u' :: a :: b :: d :: e :: rest) c rest := by
    refine ⟨Nat.lt_add_of_pos_right (by decide : 0 < 5), ?_⟩
    simp only [readEscape, hcode, hunit]
  obtain ⟨shorter, hread⟩ := hescape
  refine ⟨Nat.lt_succ_of_lt shorter, ?_⟩
  rw [readChar, if_pos rfl, hread]
  rfl

/-- A character is read as it is written. -/
theorem reads_char (c : Char) (rest : List Char) : Reads readChar (jsonChar c ++ rest) c rest := by
  unfold jsonChar
  split
  iterate 7 exact ⟨_, rfl⟩
  rename_i hquote hbackslash _ _ _ _ _
  split
  case isTrue hlow => exact reads_unit (codeUnit?_digitChar _ hlow).1 (by omega) rest
  case isFalse hlow =>
      split
      case isTrue hcontrol =>
          have hcode := (codeUnit?_digitChar (c.toNat - 0x10) (by omega)).2
          rw [Nat.add_sub_of_le (Nat.le_of_not_lt hlow)] at hcode
          exact reads_unit hcode hcontrol rest
      case isFalse hcontrol =>
          rw [List.singleton_append]
          refine ⟨Nat.lt_succ_self _, ?_⟩
          rw [readChar, if_neg hbackslash, if_neg hcontrol]

theorem jsonChar_head (c : Char) : ∃ d ds, jsonChar c = d :: ds ∧ d ≠ '"' := by
  unfold jsonChar
  split
  iterate 7 exact ⟨'\\', _, rfl, by decide⟩
  rename_i hquote _ _ _ _ _ _
  split
  · exact ⟨'\\', _, rfl, by decide⟩
  · split
    · exact ⟨'\\', _, rfl, by decide⟩
    · exact ⟨c, [], rfl, hquote⟩

theorem reads_chars_cons {d : Char} {ds mid more : List Char} (hquote : d ≠ '"')
    (hchar : Reads readChar (d :: ds) c mid) (hmore : Reads readChars mid more rest) :
    Reads readChars (d :: ds) (c :: more) rest := by
  obtain ⟨hshort, hchar⟩ := hchar
  obtain ⟨hshorter, hmore⟩ := hmore
  refine ⟨Nat.lt_trans hshorter hshort, ?_⟩
  rw [readChars]
  · simp only [hchar, hmore]
    rfl
  · exact hquote

theorem reads_chars (cs rest : List Char) :
    Reads readChars (cs.flatMap jsonChar ++ '"' :: rest) cs rest := by
  induction cs with
  | nil =>
      rw [List.flatMap_nil, List.nil_append]
      exact ⟨Nat.lt_succ_self _, by rw [readChars]⟩
  | cons c cs ih =>
      obtain ⟨d, ds, hhead, hquote⟩ := jsonChar_head c
      have hchar := reads_char c (cs.flatMap jsonChar ++ '"' :: rest)
      rw [List.flatMap_cons, List.append_assoc, hhead]
      rw [hhead] at hchar
      exact reads_chars_cons hquote hchar ih

theorem toList_jsonString (s : String) :
    (jsonString s).toList = '"' :: (s.toList.flatMap jsonChar ++ ['"']) := by
  simp [jsonString]

theorem reads_string (s : String) (rest : List Char) :
    Reads readString ((jsonString s).toList ++ rest) s rest := by
  obtain ⟨shorter, hchars⟩ := reads_chars s.toList rest
  rw [toList_jsonString, List.cons_append, List.append_assoc, List.singleton_append]
  refine ⟨Nat.lt_succ_of_lt shorter, ?_⟩
  rw [readString, hchars]
  simp [Reading.map, Reading.widen]

end Strings

section Numbers

/-- What stands behind a number does not continue it. -/
def Ends (rest : List Char) : Prop :=
  ∀ c ∈ rest.head?, isAsciiDigit c = false ∧ c ≠ '.' ∧ c ≠ 'e' ∧ c ≠ 'E'

theorem ends_nil : Ends [] := by
  rintro c ⟨⟩

theorem ends_cons (h : isAsciiDigit c = false ∧ c ≠ '.' ∧ c ≠ 'e' ∧ c ≠ 'E') (cs : List Char) :
    Ends (c :: cs) := by
  rintro d ⟨⟩
  exact h

theorem ends_blank {blank : List Char} (hblank : Blank blank) (h : Ends rest) :
    Ends (blank ++ rest) := by
  cases blank with
  | nil => exact h
  | cons c blank =>
      have hspace := hblank c List.mem_cons_self
      simp only [isSpace, Bool.or_eq_true, beq_iff_eq] at hspace
      refine ends_cons ?_ _
      rcases hspace with ((rfl | rfl) | rfl) | rfl <;> decide

theorem digits_append {cs : List Char} (hdigits : ∀ c ∈ cs, isAsciiDigit c = true)
    (hrest : Ends rest) : digits (cs ++ rest) = (cs, rest) := by
  rw [digits, List.takeWhile_append_of_pos hdigits, List.dropWhile_append_of_pos hdigits]
  cases rest with
  | nil => simp
  | cons c rest =>
      have hstop : isAsciiDigit c = false := (hrest c rfl).1
      simp [hstop]

theorem wholeDigits_toDigits (k : Nat) (hrest : Ends rest) :
    wholeDigits (Nat.toDigits 10 k ++ rest) = some (Nat.toDigits 10 k, rest) := by
  rw [wholeDigits, digits_append (fun c hc => isAsciiDigit_toDigits hc) hrest]
  split
  case h_1 heq => exact absurd (congrArg Prod.fst heq) Nat.toDigits_ne_nil
  case h_2 heq =>
      have hzero := congrArg Prod.fst heq
      cases k with
      | zero => cases hzero
      | succ k => exact absurd (congrArg List.head? hzero) (head?_toDigits k.succ_pos)
  case h_3 heq =>
      cases heq
      rfl

theorem fractionDigits_ends (hrest : Ends rest) : fractionDigits rest = some ([], rest) := by
  cases rest with
  | nil => rfl
  | cons c rest =>
      rw [fractionDigits]
      exact fun _ hpoint => (hrest c rfl).2.1 (List.cons.inj hpoint).1

theorem powerOfTen_ends (hrest : Ends rest) : powerOfTen rest = some (none, rest) := by
  cases rest with
  | nil => rfl
  | cons c rest =>
      have hends := (hrest c rfl).2.2
      simp [powerOfTen, hends]

theorem number_toDigits {k : Nat} (hk : k < wordLimit) (hrest : Ends rest) :
    number false (Nat.toDigits 10 k ++ rest) = some (.integer k, rest) := by
  simp [number, wholeDigits_toDigits k hrest, fractionDigits_ends hrest, powerOfTen_ends hrest,
    decimalValue_toDigits, hk]

theorem toList_compact_integer (k : Nat) :
    (Json.integer k).compact.toList = Nat.toDigits 10 k := by
  rw [compact, ← Nat.toList_repr]
  rfl

theorem reads_number {k : Nat} (hk : k < wordLimit) (hrest : Ends rest) :
    Reads readNumber (Nat.toDigits 10 k ++ rest) (.integer k) rest := by
  obtain ⟨c, cs, hdigits, hdigit⟩ := toDigits_cons k
  have hshort : rest.length < (Nat.toDigits 10 k ++ rest).length := by
    rw [hdigits, List.length_append, List.length_cons]
    omega
  refine ⟨hshort, ?_⟩
  rw [readNumber]
  · simp only [number_toDigits hk hrest, hshort, dite_true]
  · intro cs' hminus
    rw [hdigits] at hminus
    rw [(List.cons.inj hminus).1] at hdigit
    cases hdigit

end Numbers

section Containers

variable {deeper : CharReader Json} {mid : List Char}

theorem reads_items_nil (h : skipSpace cs = ']' :: rest) :
    Reads (readItems deeper) cs [] rest := by
  obtain ⟨shorter, hclose⟩ := reads_mark h
  refine ⟨shorter, ?_⟩
  rw [readItems, hclose]
  rfl

theorem reads_items_cons {item : Json} {items : List Json} {behindComma : List Char}
    (hcomma : skipSpace cs = ',' :: behindComma) (hitem : Reads deeper behindComma item mid)
    (hitems : Reads (readItems deeper) mid items rest) :
    Reads (readItems deeper) cs (item :: items) rest := by
  obtain ⟨hshort, hmark⟩ := reads_mark hcomma
  obtain ⟨hshorter, hone⟩ := hitem
  obtain ⟨hshortest, hmore⟩ := hitems
  refine ⟨Nat.lt_trans hshortest (Nat.lt_trans hshorter hshort), ?_⟩
  rw [readItems, readMark_eq_none hcomma (by decide), hmark]
  simp only [hone, hmore]
  rfl

theorem reads_array_nil (h : skipSpace cs = ']' :: rest) :
    Reads (readArray deeper) cs [] rest := by
  obtain ⟨shorter, hclose⟩ := reads_mark h
  refine ⟨shorter, ?_⟩
  rw [readArray, hclose]
  rfl

theorem reads_array_cons {item : Json} {items : List Json} (hopen : readMark ']' cs = none)
    (hitem : Reads deeper cs item mid) (hitems : Reads (readItems deeper) mid items rest) :
    Reads (readArray deeper) cs (item :: items) rest := by
  obtain ⟨hshort, hone⟩ := hitem
  obtain ⟨hshorter, hmore⟩ := hitems
  refine ⟨Nat.lt_trans hshorter hshort, ?_⟩
  rw [readArray, hopen]
  simp only [hone, Option.bind_eq_bind, Option.bind_some, hmore]
  rfl

theorem reads_field {name : String} {value : Json} {behindColon : List Char}
    (hname : Reads readString (skipSpace cs) name mid)
    (hcolon : skipSpace mid = ':' :: behindColon) (hvalue : Reads deeper behindColon value rest) :
    Reads (readField deeper) cs (name, value) rest := by
  obtain ⟨hshort, hone⟩ := hname
  obtain ⟨hshorter, hmark⟩ := reads_mark hcolon
  obtain ⟨hshortest, htwo⟩ := hvalue
  have hle := length_skipSpace_le cs
  refine ⟨by omega, ?_⟩
  rw [readField, hone]
  simp only [Option.bind_eq_bind, Option.bind_some, hmark, htwo]
  rfl

theorem reads_fields_nil (h : skipSpace cs = '}' :: rest) :
    Reads (readFields deeper) cs [] rest := by
  obtain ⟨shorter, hclose⟩ := reads_mark h
  refine ⟨shorter, ?_⟩
  rw [readFields, hclose]
  rfl

theorem reads_fields_cons {field : String × Json} {fields : List (String × Json)}
    {behindComma : List Char} (hcomma : skipSpace cs = ',' :: behindComma)
    (hfield : Reads (readField deeper) behindComma field mid)
    (hfields : Reads (readFields deeper) mid fields rest) :
    Reads (readFields deeper) cs (field :: fields) rest := by
  obtain ⟨hshort, hmark⟩ := reads_mark hcomma
  obtain ⟨hshorter, hone⟩ := hfield
  obtain ⟨hshortest, hmore⟩ := hfields
  refine ⟨Nat.lt_trans hshortest (Nat.lt_trans hshorter hshort), ?_⟩
  rw [readFields, readMark_eq_none hcomma (by decide), hmark]
  simp only [hone, hmore]
  rfl

theorem reads_object_nil (h : skipSpace cs = '}' :: rest) :
    Reads (readObject deeper) cs [] rest := by
  obtain ⟨shorter, hclose⟩ := reads_mark h
  refine ⟨shorter, ?_⟩
  rw [readObject, hclose]
  rfl

theorem reads_object_cons {field : String × Json} {fields : List (String × Json)}
    (hopen : readMark '}' cs = none) (hfield : Reads (readField deeper) cs field mid)
    (hfields : Reads (readFields deeper) mid fields rest) :
    Reads (readObject deeper) cs (field :: fields) rest := by
  obtain ⟨hshort, hone⟩ := hfield
  obtain ⟨hshorter, hmore⟩ := hfields
  refine ⟨Nat.lt_trans hshorter hshort, ?_⟩
  rw [readObject, hopen]
  simp only [hone, Option.bind_eq_bind, Option.bind_some, hmore]
  rfl

end Containers

section Values

variable {deeper : Option (CharReader Json)}

theorem reads_value_of_bare {cs' : List Char} {value : Json} (hspace : skipSpace cs = cs')
    (h : Reads (readBare deeper) cs' value rest) : Reads (readValueWith deeper) cs value rest := by
  subst hspace
  obtain ⟨shorter, hbare⟩ := h
  refine ⟨Nat.lt_of_lt_of_le shorter (length_skipSpace_le cs), ?_⟩
  rw [readValueWith, hbare]
  rfl

theorem reads_bare_array {read : CharReader Json} {items : List Json}
    (h : Reads (readArray read) cs items rest) :
    Reads (readBare (some read)) ('[' :: cs) (.array items) rest := by
  obtain ⟨shorter, harray⟩ := h
  refine ⟨Nat.lt_succ_of_lt shorter, ?_⟩
  rw [readBare]
  simp only [Option.bind_eq_bind, Option.bind_some, harray]
  rfl

theorem reads_bare_object {read : CharReader Json} {fields : List (String × Json)}
    (h : Reads (readObject read) cs fields rest) :
    Reads (readBare (some read)) ('{' :: cs) (.object fields) rest := by
  obtain ⟨shorter, hobject⟩ := h
  refine ⟨Nat.lt_succ_of_lt shorter, ?_⟩
  rw [readBare]
  simp only [Option.bind_eq_bind, Option.bind_some, hobject]
  rfl

theorem reads_bare_string (s : String) (rest : List Char) :
    Reads (readBare deeper) ((jsonString s).toList ++ rest) (.string s) rest := by
  have h := reads_string s rest
  rw [toList_jsonString, List.cons_append] at h ⊢
  obtain ⟨shorter, hstring⟩ := h
  refine ⟨shorter, ?_⟩
  rw [readBare, hstring]
  rfl

theorem reads_literal (word : List Char) (hword : 0 < word.length) (value : Json)
    (rest : List Char) : Reads (readLiteral word value) (word ++ rest) value rest := by
  have hshort : rest.length < (word ++ rest).length := by
    rw [List.length_append]
    omega
  refine ⟨hshort, ?_⟩
  have hprefix : word.isPrefixOf (word ++ rest) = true :=
    List.isPrefixOf_iff_prefix.2 (List.prefix_append word rest)
  simp only [readLiteral, hprefix, if_true, List.drop_left, hshort, dite_true]

theorem reads_bare_number {k : Nat} (hk : k < wordLimit) (hrest : Ends rest) :
    Reads (readBare deeper) (Nat.toDigits 10 k ++ rest) (.integer k) rest := by
  obtain ⟨shorter, hnumber⟩ := reads_number hk hrest
  obtain ⟨c, cs, hdigits, hdigit⟩ := toDigits_cons k
  refine ⟨shorter, ?_⟩
  rw [← hnumber, readBare]
  all_goals
    rw [hdigits]
    intro cs' heq
    rw [(List.cons.inj heq).1] at hdigit
    cases hdigit

/-- A written value does not begin with a blank or a closing bracket. -/
theorem written_head (l : Layout) (depth : Nat) {levels : Nat} {value : Json}
    (h : value.Fits levels) :
    ∃ c cs, value.written l depth = c :: cs ∧ isSpace c = false ∧ c ≠ ']' := by
  cases value with
  | null => exact ⟨'n', _, rfl, rfl, by decide⟩
  | bool value => cases value with
    | true => exact ⟨'t', _, rfl, rfl, by decide⟩
    | false => exact ⟨'f', _, rfl, rfl, by decide⟩
  | real literal => cases h
  | integer n =>
      obtain ⟨k, rfl, -⟩ := h
      obtain ⟨c, cs, hdigits, hdigit⟩ := toDigits_cons k
      refine ⟨c, cs, (toList_compact_integer k).trans hdigits, Bool.eq_false_iff.2 ?_, ?_⟩
      · intro hspace
        simp only [isSpace, Bool.or_eq_true, beq_iff_eq] at hspace
        rcases hspace with ((rfl | rfl) | rfl) | rfl <;> cases hdigit
      · rintro rfl
        cases hdigit
  | string s => exact ⟨'"', _, toList_jsonString s, rfl, by decide⟩
  | array items => cases items with
    | nil => exact ⟨'[', _, rfl, rfl, by decide⟩
    | cons item items => exact ⟨'[', _, rfl, rfl, by decide⟩
  | object fields => cases fields with
    | nil => exact ⟨'{', _, rfl, rfl, by decide⟩
    | cons field fields => exact ⟨'{', _, rfl, rfl, by decide⟩

theorem skipSpace_written (l : Layout) (depth : Nat) {levels : Nat} {value : Json}
    (h : value.Fits levels) {blank : List Char} (hblank : Blank blank) (rest : List Char) :
    skipSpace (blank ++ (value.written l depth ++ rest)) = value.written l depth ++ rest := by
  obtain ⟨c, cs, hhead, hspace, -⟩ := written_head l depth h
  rw [hhead]
  exact skipSpace_blank_cons hblank hspace _

theorem reads_leaf {cs' : List Char} {value : Json} (levels : Nat) (hspace : skipSpace cs = cs')
    (h : ∀ deeper, Reads (readBare deeper) cs' value rest) :
    Reads (readValue levels) cs value rest := by
  cases levels with
  | zero => exact reads_value_of_bare hspace (h _)
  | succ levels => exact reads_value_of_bare hspace (h _)

end Values

section Written

variable (l : Layout) {blank : List Char}

theorem ends_items (depth : Nat) (items : List Json) (hblank : Blank blank)
    (rest : List Char) :
    Ends (writtenItems l depth items ++ (blank ++ ']' :: rest)) := by
  cases items with
  | nil =>
      rw [writtenItems, List.nil_append]
      exact ends_blank hblank (ends_cons (by decide) rest)
  | cons item items =>
      rw [writtenItems, List.cons_append]
      exact ends_cons (by decide) _

theorem ends_fields (depth : Nat) (fields : List (String × Json)) (hblank : Blank blank)
    (rest : List Char) :
    Ends (writtenFields l depth fields ++ (blank ++ '}' :: rest)) := by
  cases fields with
  | nil =>
      rw [writtenFields, List.nil_append]
      exact ends_blank hblank (ends_cons (by decide) rest)
  | cons field fields =>
      rw [writtenFields, List.cons_append]
      exact ends_cons (by decide) _

theorem skipSpace_name (name : String) (hblank : Blank blank) (rest : List Char) :
    skipSpace (blank ++ ((jsonString name).toList ++ rest)) =
      (jsonString name).toList ++ rest := by
  rw [toList_jsonString]
  exact skipSpace_blank_cons hblank rfl _

/-- A field is read as it is written, if its value is. -/
theorem reads_written_field {deeper : CharReader Json} (name : String) {value : Json}
    {text : List Char} (hblank : Blank blank)
    (h : Reads deeper (l.behindColon ++ text) value rest) :
    Reads (readField deeper)
      (blank ++ ((jsonString name).toList ++ (':' :: (l.behindColon ++ text)))) (name, value)
      rest := by
  have hname := reads_string name (':' :: (l.behindColon ++ text))
  rw [← skipSpace_name name hblank] at hname
  exact reads_field hname (skipSpace_cons rfl _) h

mutual

theorem reads_written :
    ∀ (value : Json) (depth : Nat) {levels : Nat} {blank rest : List Char}, value.Fits levels →
      Blank blank → Ends rest →
      Reads (readValue levels) (blank ++ (value.written l depth ++ rest)) value rest
  | .null, depth, levels, _, rest, hfits, hblank, _ =>
      reads_leaf levels (skipSpace_written l depth hfits hblank rest) fun _ =>
        reads_literal ['n', 'u', 'l', 'l'] (by decide) .null rest
  | .bool true, depth, levels, _, rest, hfits, hblank, _ =>
      reads_leaf levels (skipSpace_written l depth hfits hblank rest) fun _ =>
        reads_literal ['t', 'r', 'u', 'e'] (by decide) (.bool true) rest
  | .bool false, depth, levels, _, rest, hfits, hblank, _ =>
      reads_leaf levels (skipSpace_written l depth hfits hblank rest) fun _ =>
        reads_literal ['f', 'a', 'l', 's', 'e'] (by decide) (.bool false) rest
  | .string s, depth, levels, _, rest, hfits, hblank, _ =>
      reads_leaf levels (skipSpace_written l depth hfits hblank rest) fun _ =>
        reads_bare_string s rest
  | .integer n, depth, levels, _, rest, hfits, hblank, hrest => by
      have hspace := skipSpace_written l depth hfits hblank rest
      obtain ⟨k, rfl, hk⟩ := hfits
      have htext : (Json.integer k).written l depth = Nat.toDigits 10 k :=
        toList_compact_integer k
      rw [htext] at hspace ⊢
      exact reads_leaf levels hspace fun _ => reads_bare_number hk hrest
  | .array [], depth, levels, _, rest, hfits, hblank, _ => by
      have hspace := skipSpace_written l depth hfits hblank rest
      obtain ⟨levels, rfl, -⟩ := fits_array hfits
      exact reads_value_of_bare hspace
        (reads_bare_array (reads_array_nil (skipSpace_cons rfl rest)))
  | .array (item :: items), depth, levels, _, rest, hfits, hblank, _ => by
      have hspace := skipSpace_written l depth hfits hblank rest
      obtain ⟨levels, rfl, hitem, hitems⟩ := fits_array hfits
      have hends := ends_items l (depth + 1) items (l.blank_gap depth) rest
      have hone := reads_written item (depth + 1) hitem (l.blank_gap (depth + 1)) hends
      have hmore := reads_writtenItems items (depth + 1) (l.blank_gap depth) hitems rest
      obtain ⟨c, cs, hhead, hblank, hbracket⟩ := written_head l (depth + 1) hitem
      have hopen : readMark ']' (l.gap (depth + 1) ++ (item.written l (depth + 1) ++
          (writtenItems l (depth + 1) items ++ (l.gap depth ++ ']' :: rest)))) = none := by
        rw [hhead]
        exact readMark_eq_none (skipSpace_blank_cons (l.blank_gap (depth + 1)) hblank _) hbracket
      refine reads_value_of_bare hspace ?_
      have harray := reads_bare_array (reads_array_cons hopen hone hmore)
      simpa only [written, List.cons_append, List.append_assoc, List.nil_append] using harray
  | .object [], depth, levels, _, rest, hfits, hblank, _ => by
      have hspace := skipSpace_written l depth hfits hblank rest
      obtain ⟨levels, rfl, -⟩ := fits_object hfits
      exact reads_value_of_bare hspace
        (reads_bare_object (reads_object_nil (skipSpace_cons rfl rest)))
  | .object (⟨name, value⟩ :: fields), depth, levels, _, rest, hfits, hblank, _ => by
      have hspace := skipSpace_written l depth hfits hblank rest
      obtain ⟨levels, rfl, hvalue, hfields⟩ := fits_object hfits
      have hends := ends_fields l (depth + 1) fields (l.blank_gap depth) rest
      have hone := reads_written_field l name (l.blank_gap (depth + 1))
        (reads_written value (depth + 1) hvalue l.blank_behindColon hends)
      have hmore := reads_writtenFields fields (depth + 1) (l.blank_gap depth) hfields rest
      have hopen : readMark '}' (l.gap (depth + 1) ++ ((jsonString name).toList ++ (':' ::
          (l.behindColon ++ (value.written l (depth + 1) ++
            (writtenFields l (depth + 1) fields ++ (l.gap depth ++ '}' :: rest))))))) = none := by
        rw [toList_jsonString]
        exact readMark_eq_none (skipSpace_blank_cons (l.blank_gap (depth + 1)) rfl _) (by decide)
      refine reads_value_of_bare hspace ?_
      have hobject := reads_bare_object (reads_object_cons hopen hone hmore)
      simpa only [written, List.cons_append, List.append_assoc, List.nil_append] using hobject

theorem reads_writtenItems :
    ∀ (items : List Json) (depth : Nat) {levels : Nat} {blank : List Char}, Blank blank →
      itemsFit levels items → ∀ rest : List Char,
      Reads (readItems (readValue levels)) (writtenItems l depth items ++ (blank ++ ']' :: rest))
        items rest
  | [], depth, levels, blank, hblank, _, rest => by
      rw [writtenItems, List.nil_append]
      exact reads_items_nil (skipSpace_blank_cons hblank rfl rest)
  | item :: items, depth, levels, blank, hblank, hfits, rest => by
      obtain ⟨hitem, hitems⟩ := hfits
      have hone := reads_written item depth hitem (l.blank_gap depth)
        (ends_items l depth items hblank rest)
      have hmore := reads_writtenItems items depth hblank hitems rest
      have hcons := reads_items_cons (skipSpace_cons rfl _) hone hmore
      simpa only [writtenItems, List.cons_append, List.append_assoc] using hcons

theorem reads_writtenFields :
    ∀ (fields : List (String × Json)) (depth : Nat) {levels : Nat} {blank : List Char},
      Blank blank → fieldsFit levels fields → ∀ rest : List Char,
      Reads (readFields (readValue levels))
        (writtenFields l depth fields ++ (blank ++ '}' :: rest)) fields rest
  | [], depth, levels, blank, hblank, _, rest => by
      rw [writtenFields, List.nil_append]
      exact reads_fields_nil (skipSpace_blank_cons hblank rfl rest)
  | ⟨name, value⟩ :: fields, depth, levels, blank, hblank, hfits, rest => by
      obtain ⟨hvalue, hfields⟩ := hfits
      have hone := reads_written_field l name (l.blank_gap depth)
        (reads_written value depth hvalue l.blank_behindColon
          (ends_fields l depth fields hblank rest))
      have hmore := reads_writtenFields fields depth hblank hfields rest
      have hcons := reads_fields_cons (skipSpace_cons rfl _) hone hmore
      simpa only [writtenFields, List.cons_append, List.append_assoc] using hcons

end

end Written

theorem Reads.unique {α : Type} {read : CharReader α} {value value' : α} {rest' : List Char}
    (h : Reads read cs value rest) (h' : Reads read cs value' rest') : value = value' := by
  obtain ⟨shorter, hread⟩ := h
  obtain ⟨shorter', hread'⟩ := h'
  rw [hread, Option.some.injEq, Reading.mk.injEq] at hread'
  exact hread'.1

theorem parse?_of_reads {text : String} {value : Json}
    (h : Reads (readValue maxNesting) text.toList value rest) (hblank : Blank rest) :
    parse? text = some value := by
  obtain ⟨shorter, hread⟩ := h
  have hend : skipSpace rest = [] := by
    rw [← List.append_nil rest, skipSpace_append hblank]
    rfl
  rw [parse?, hread]
  simp [hend]

section Texts

variable {value other : Json} {levels : Nat}

theorem parse?_written (l : Layout) (h : value.Fits maxNesting) {text : String}
    {blank : List Char} (hblank : Blank blank) (htext : text.toList = value.written l 0 ++ blank) :
    parse? text = some value := by
  have hends := ends_blank hblank ends_nil
  rw [List.append_nil] at hends
  have hread := reads_written l value 0 h blank_nil hends
  rw [List.nil_append, ← htext] at hread
  exact parse?_of_reads hread hblank

theorem parse?_compact (h : value.Fits maxNesting) : parse? value.compact = some value :=
  parse?_written .compact h blank_nil (by rw [List.append_nil, toList_compact 0])

/-- Blanks behind the indented text do no harm. -/
theorem parse?_indented (h : value.Fits maxNesting) {blank : List Char} (hblank : Blank blank) :
    parse? (value.indented ++ String.ofList blank) = some value :=
  parse?_written .indented h hblank (by simp [indented, toList_indentedAt])

/-- Values that the reader gives back have the same compact text only if they are the same. -/
theorem compact_injective (h : value.Fits levels) (h' : other.Fits levels)
    (htext : value.compact = other.compact) : value = other := by
  have hread := reads_written .compact value 0 h blank_nil ends_nil
  have hread' := reads_written .compact other 0 h' blank_nil ends_nil
  rw [← toList_compact] at hread hread'
  rw [← htext] at hread'
  exact hread.unique hread'

end Texts

end Json

end WindowActions
