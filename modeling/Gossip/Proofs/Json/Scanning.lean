import Gossip.Json.Token

/-! What is written is scanned.

A text that is tokens as they are written, with blanks between them or without, is scanned into
these tokens (`Spells.scan`), given that no two words or numerals meet (`Legible`). Both ways to
write tokens give such a text (`spells_compact`, `spells_indented`). -/
namespace Gossip.Json

/-! ### Numerals -/

theorem isRun_of_isDigit {c : Char} (h : c.isDigit = true) : Token.isRun c = true := by
  simp [Token.isRun, Char.isAlphanum, h]

theorem isRun_of_isDigits {cs : List Char} (h : isDigits cs = true) :
    ∀ c ∈ cs, Token.isRun c = true := by
  simp only [isDigits, Bool.and_eq_true, List.all_eq_true] at h
  exact fun c hc => isRun_of_isDigit (h.2 c hc)

/-- What follows the digits has a say, the digits themselves do not. -/
theorem isRun_of_dropWhile {cs : List Char}
    (h : ∀ c ∈ cs.dropWhile Char.isDigit, Token.isRun c = true) :
    ∀ c ∈ cs, Token.isRun c = true := by
  intro c hc
  rw [← List.takeWhile_append_dropWhile (p := Char.isDigit) (l := cs), List.mem_append] at hc
  obtain hc | hc := hc
  · exact isRun_of_isDigit (List.all_eq_true.mp List.all_takeWhile c hc)
  · exact h c hc

theorem isRun_of_isExponent {cs : List Char} (h : isExponent cs = true) :
    ∀ c ∈ cs, Token.isRun c = true := by
  unfold isExponent at h
  split at h
  · simp
  · rename_i e sign digits
    simp only [Bool.and_eq_true, Bool.or_eq_true, decide_eq_true_eq] at h
    obtain ⟨he, hdigits⟩ := h
    have hrun : Token.isRun e = true := by
      obtain rfl | rfl := he <;> decide
    split at hdigits
    · rename_i hsign
      have hsign : Token.isRun sign = true := by
        obtain rfl | rfl := hsign <;> decide
      simp only [List.forall_mem_cons]
      exact ⟨hrun, hsign, isRun_of_isDigits hdigits⟩
    · simp only [List.forall_mem_cons (a := e)]
      exact ⟨hrun, isRun_of_isDigits hdigits⟩
  · cases h

theorem isRun_of_isScale {cs : List Char} (h : isScale cs = true) :
    ∀ c ∈ cs, Token.isRun c = true := by
  unfold isScale at h
  split at h
  · simp only [Bool.and_eq_true] at h
    simp only [List.forall_mem_cons]
    exact ⟨by decide, isRun_of_dropWhile (isRun_of_isExponent h.2)⟩
  · exact isRun_of_isExponent h

theorem isRun_of_isMagnitude {cs : List Char} (h : isMagnitude cs = true) :
    ∀ c ∈ cs, Token.isRun c = true := by
  unfold isMagnitude at h
  split at h
  · simp only [List.forall_mem_cons]
    exact ⟨by decide, isRun_of_isScale h⟩
  · simp only [Bool.and_eq_true] at h
    simp only [List.forall_mem_cons]
    exact ⟨isRun_of_isDigit h.1, isRun_of_dropWhile (isRun_of_isScale h.2)⟩
  · cases h

theorem isRun_of_isNumeral {cs : List Char} (h : isNumeral cs = true) :
    ∀ c ∈ cs, Token.isRun c = true := by
  unfold isNumeral at h
  split at h
  · simp only [List.forall_mem_cons]
    exact ⟨by decide, isRun_of_isMagnitude h⟩
  · exact isRun_of_isMagnitude h

/-! ### Texts -/

/-- Characters alone are joined to the text of them. -/
theorem joinHalves_chars (reversed cs : List Char) :
    joinHalves reversed (cs.map .char) = some (String.ofList (reversed.reverse ++ cs)) := by
  induction cs generalizing reversed with
  | nil => simp [joinHalves]
  | cons c cs ih => simp [joinHalves, ih]

theorem hexValue?_digitChar {d : Nat} (h : d < 16) : hexValue? (Nat.digitChar d) = some d := by
  have : ∀ d < 16, hexValue? (Nat.digitChar d) = some d := by decide
  exact this d h

/-- A unit that is a character's number below the surrogates stands for the character. -/
theorem Piece.ofUnit_toNat {c : Char} (h : c.toNat < 0x20) : Piece.ofUnit c.toNat = .char c := by
  rw [Piece.ofUnit, if_neg (by omega), Char.ofNat_toNat]

namespace Token

/-- In a text a character as it is written is scanned into the character. -/
theorem scanFrom_escape (done : List Token) (pieces : List Piece) (c : Char) (rest : List Char) :
    scanFrom done (.text pieces) (escape c ++ rest) =
      scanFrom done (.text (.char c :: pieces)) rest := by
  by_cases hshort : c ∈ ['"', '\\', '\x08', '\x0c', '\n', '\r', '\t']
  · simp only [List.mem_cons, List.not_mem_nil, or_false] at hshort
    obtain rfl | rfl | rfl | rfl | rfl | rfl | rfl := hshort <;> rfl
  · simp only [List.mem_cons, List.not_mem_nil, or_false, not_or] at hshort
    obtain ⟨hquote, hback, hb, hf, hn, hr, ht⟩ := hshort
    by_cases hcontrol : c.toNat < 0x20
    · have hhigh := hexValue?_digitChar (d := c.toNat / 16) (by omega)
      have hlow := hexValue?_digitChar (d := c.toNat % 16) (by omega)
      have hzero : hexValue? '0' = some 0 := by decide
      have hparts : c.toNat / 16 * 16 + c.toNat % 16 = c.toNat := by omega
      simp only [escape, hquote, hback, hb, hf, hn, hr, ht, hcontrol, if_true, if_false]
      simp [scanFrom, step, hzero, hhigh, hlow, hparts, Piece.ofUnit_toNat hcontrol]
    · simp [escape, scanFrom, step, hquote, hback, hb, hf, hn, hr, ht, hcontrol]

theorem scanFrom_escapes (done : List Token) (pieces : List Piece) (cs rest : List Char) :
    scanFrom done (.text pieces) (cs.flatMap escape ++ rest) =
      scanFrom done (.text (cs.reverse.map .char ++ pieces)) rest := by
  induction cs generalizing pieces with
  | nil => rfl
  | cons c cs ih =>
    rw [List.flatMap_cons, List.append_assoc, scanFrom_escape, ih]
    simp

/-! ### Words and numerals -/

/-- Is a token a word or a numeral? -/
def isWord : Token → Bool
  | .null | .bool _ | .number _ => true
  | _ => false

/-- A number is a numeral. What other tokens are written as is always read. -/
def Readable : Token → Prop
  | .number numeral => isNumeral numeral.toList = true
  | _ => True

theorem isRun_written {token : Token} (hword : token.isWord = true) (h : token.Readable) :
    ∀ c ∈ token.written.toList, isRun c = true := by
  match token with
  | .null => exact List.all_eq_true.mp rfl
  | .bool true => exact List.all_eq_true.mp rfl
  | .bool false => exact List.all_eq_true.mp rfl
  | .number _ => exact isRun_of_isNumeral h

theorem ofRun?_written {token : Token} (hword : token.isWord = true) (h : token.Readable) :
    ofRun? token.written.toList = some token := by
  match token with
  | .null => rfl
  | .bool true => rfl
  | .bool false => rfl
  | .number numeral =>
    -- No word is a numeral.
    have hne : ∀ cs, isNumeral cs = false → numeral.toList ≠ cs := by
      rintro cs hcs rfl
      exact Bool.false_ne_true (hcs.symm.trans h)
    have hnumeral : isNumeral numeral.toList = true := h
    simp only [written, ofRun?, if_neg (hne ['n', 'u', 'l', 'l'] rfl),
      if_neg (hne ['t', 'r', 'u', 'e'] rfl), if_neg (hne ['f', 'a', 'l', 's', 'e'] rfl),
      if_pos hnumeral, String.ofList_toList]

theorem not_isRun_of_isBlank {c : Char} (h : isBlank c = true) : isRun c = false := by
  simp only [isBlank, Bool.or_eq_true, decide_eq_true_eq] at h
  obtain ((rfl | rfl) | rfl) | rfl := h <;> decide

theorem not_isBlank_of_isRun {c : Char} (h : isRun c = true) : isBlank c = false := by
  cases hblank : isBlank c with
  | false => rfl
  | true => exact h.symm.trans (not_isRun_of_isBlank hblank)

/-- Characters of a run are gathered. -/
theorem scanFrom_run (done : List Token) (front : List Char) {word rest : List Char}
    (h : ∀ c ∈ word, isRun c = true) :
    scanFrom done (.run front) (word ++ rest) =
      scanFrom done (.run (word.reverse ++ front)) rest := by
  induction word generalizing front with
  | nil => rfl
  | cons c word ih =>
    rw [List.forall_mem_cons] at h
    simp only [List.cons_append, scanFrom, step, h.1, if_true, ih _ h.2]
    simp

/-- A run ends before a character that may not stand in it, and there it is a token. -/
theorem scanFrom_run_end {done : List Token} {characters rest : List Char} {token : Token}
    (h : ofRun? characters.reverse = some token) (hend : ∀ c ∈ rest.head?, isRun c = false) :
    scanFrom done (.run characters) rest = scanFrom (token :: done) .between rest := by
  cases rest with
  | nil => simp [scanFrom, finish, h]
  | cons c rest =>
    have hc : isRun c = false := hend c rfl
    simp [scanFrom, step, hc, h]

/-! ### Any token -/

/-- A word or a numeral in front of what does not prolong it. -/
theorem scanFrom_word {token : Token} (done : List Token) {rest : List Char}
    (hword : token.isWord = true) (h : token.Readable)
    (hend : ∀ c ∈ rest.head?, isRun c = false) :
    scanFrom done .between (token.written.toList ++ rest) =
      scanFrom (token :: done) .between rest := by
  have hrun := isRun_written hword h
  have hof := ofRun?_written hword h
  generalize token.written.toList = characters at hrun hof
  cases characters with
  | nil => cases hof
  | cons c characters =>
    rw [List.forall_mem_cons] at hrun
    have hstart : start done c = some (done, .run [c]) := by
      simp [start, not_isBlank_of_isRun hrun.1, hrun.1]
    simp only [List.cons_append, scanFrom, step, hstart]
    rw [scanFrom_run _ _ hrun.2, scanFrom_run_end (by simpa using hof) hend]

/-- A mark or a text in front of anything. -/
theorem scanFrom_mark {token : Token} (done : List Token) (rest : List Char)
    (h : token.isWord = false) :
    scanFrom done .between (token.written.toList ++ rest) =
      scanFrom (token :: done) .between rest := by
  match token with
  | .openBrace | .closeBrace | .openBracket | .closeBracket | .comma | .colon => rfl
  | .text none => rfl
  | .text (some content) =>
    have hopen : ∀ cs, scanFrom done .between ('"' :: cs) = scanFrom done (.text []) cs :=
      fun _ => rfl
    have hclose : ∀ pieces, scanFrom done (.text pieces) ('"' :: rest) =
        scanFrom (.text (joinHalves [] pieces.reverse) :: done) .between rest := fun _ => rfl
    simp only [written, String.toList_ofList, List.cons_append, List.append_assoc, hopen,
      scanFrom_escapes, List.nil_append, hclose]
    rw [List.append_nil, ← List.map_reverse, List.reverse_reverse, joinHalves_chars]
    simp

theorem not_isRun_head {token : Token} (h : token.isWord = false) (rest : List Char) :
    ∀ c ∈ (token.written.toList ++ rest).head?, isRun c = false := by
  match token with
  | .openBrace | .closeBrace | .openBracket | .closeBracket | .comma | .colon =>
    rintro c ⟨⟩
    rfl
  | .text none =>
    rintro c ⟨⟩
    rfl
  | .text (some content) =>
    rw [written, String.toList_ofList]
    rintro c ⟨⟩
    rfl

/-! ### Lists of tokens -/

/-- Tokens as they are written, in order, with blanks before, between and after them. -/
inductive Spells : List Char → List Token → Prop
  | nil : Spells [] []
  | blank {c : Char} {cs : List Char} {tokens : List Token} (h : isBlank c = true) :
    Spells cs tokens → Spells (c :: cs) tokens
  | token (token : Token) {cs : List Char} {tokens : List Token} :
    Spells cs tokens → Spells (token.written.toList ++ cs) (token :: tokens)

/-- Numbers are numerals, and no two words or numerals meet. -/
inductive Legible : List Token → Prop
  | nil : Legible []
  | mark {token : Token} {rest : List Token} (h : token.isWord = false) :
    Legible rest → Legible (token :: rest)
  | word {token : Token} {rest : List Token} (h : token.isWord = true)
    (hreadable : token.Readable) (hnext : ∀ next ∈ rest.head?, next.isWord = false) :
    Legible rest → Legible (token :: rest)

/-- What spells no word first does not begin like one. -/
theorem Spells.not_isRun_head {cs : List Char} {tokens : List Token} (h : Spells cs tokens)
    (hhead : ∀ token ∈ tokens.head?, token.isWord = false) :
    ∀ c ∈ cs.head?, isRun c = false := by
  cases h with
  | nil => simp
  | blank hblank =>
    rintro c ⟨⟩
    exact not_isRun_of_isBlank hblank
  | token token => exact Token.not_isRun_head (hhead token rfl) _

theorem Spells.scanFrom {cs : List Char} {tokens : List Token} (h : Spells cs tokens)
    (hlegible : Legible tokens) (done : List Token) :
    Token.scanFrom done .between cs = some (done.reverse ++ tokens) := by
  induction h generalizing done with
  | nil => simp [Token.scanFrom, finish]
  | blank hblank _ ih =>
    simp only [Token.scanFrom, step, start, hblank, if_true]
    exact ih hlegible done
  | token token hspells ih =>
    cases hlegible with
    | mark hmark hrest =>
      rw [scanFrom_mark done _ hmark, ih hrest, List.reverse_cons, List.append_assoc,
        List.singleton_append]
    | word hword hreadable hnext hrest =>
      rw [scanFrom_word done hword hreadable (hspells.not_isRun_head hnext), ih hrest,
        List.reverse_cons, List.append_assoc, List.singleton_append]

/-- A text that spells tokens is scanned into them. -/
theorem Spells.scan {text : String} {tokens : List Token} (h : Spells text.toList tokens)
    (hlegible : Legible tokens) : Token.scan text = some tokens :=
  h.scanFrom hlegible []

/-! ### Writing -/

theorem toList_foldl_written (out : String) (tokens : List Token) :
    (tokens.foldl (fun out token => out ++ token.written) out).toList =
      out.toList ++ tokens.flatMap fun token => token.written.toList := by
  induction tokens generalizing out with
  | nil => simp
  | cons token tokens ih => simp [ih]

theorem spells_compact (tokens : List Token) : Spells (compact tokens).toList tokens := by
  rw [compact, toList_foldl_written]
  induction tokens with
  | nil => exact .nil
  | cons token tokens ih => simpa using Spells.token token ih

theorem Spells.blanks {blanks cs : List Char} {tokens : List Token} (h : Spells cs tokens)
    (hblank : ∀ c ∈ blanks, isBlank c = true) : Spells (blanks ++ cs) tokens := by
  induction blanks with
  | nil => exact h
  | cons c blanks ih =>
    rw [List.forall_mem_cons] at hblank
    exact .blank hblank.1 (ih hblank.2)

theorem toList_pushn (s : String) (c : Char) (n : Nat) :
    (s.pushn c n).toList = s.toList ++ List.replicate n c := by
  induction n with
  | zero => simp [String.pushn, Nat.repeat]
  | succ n ih =>
    rw [List.replicate_succ', ← List.append_assoc, ← ih]
    simp [String.pushn, Nat.repeat]

theorem isBlank_newLine (depth : Nat) : ∀ c ∈ (newLine depth).toList, isBlank c = true := by
  intro c hc
  rw [newLine, toList_pushn] at hc
  simp only [List.mem_append, List.mem_replicate] at hc
  obtain hc | ⟨-, rfl⟩ := hc
  · have hbreak : "\n".toList.all isBlank = true := rfl
    exact List.all_eq_true.mp hbreak c hc
  · rfl

/-- What stands in a text after `out` spells the tokens. -/
def Adds (out : String) (tokens : List Token) (text : String) : Prop :=
  ∃ cs, text.toList = out.toList ++ cs ∧ Spells cs tokens

theorem Adds.token {out text : String} {tokens : List Token} (token : Token)
    (h : Adds (out ++ token.written) tokens text) : Adds out (token :: tokens) text := by
  obtain ⟨cs, htext, hspells⟩ := h
  exact ⟨token.written.toList ++ cs, by rw [htext, String.toList_append, List.append_assoc],
    .token token hspells⟩

theorem Adds.blanks {out blanks text : String} {tokens : List Token}
    (hblank : ∀ c ∈ blanks.toList, isBlank c = true) (h : Adds (out ++ blanks) tokens text) :
    Adds out tokens text := by
  obtain ⟨cs, htext, hspells⟩ := h
  exact ⟨blanks.toList ++ cs, by rw [htext, String.toList_append, List.append_assoc],
    hspells.blanks hblank⟩

theorem adds_indentFrom (depth : Nat) (out : String) (tokens : List Token) :
    Adds out tokens (indentFrom depth out tokens) := by
  fun_induction indentFrom depth out tokens with
  | case1 => exact ⟨[], by simp, .nil⟩
  | case2 depth out rest ih =>
    rw [show "\x7b\x7d" = written .openBrace ++ written .closeBrace from rfl,
      ← String.append_assoc] at ih ⊢
    exact (ih.token .closeBrace).token .openBrace
  | case3 depth out rest ih =>
    rw [show "[]" = written .openBracket ++ written .closeBracket from rfl,
      ← String.append_assoc] at ih ⊢
    exact (ih.token .closeBracket).token .openBracket
  | case4 depth out rest _ ih => exact (ih.blanks (isBlank_newLine _)).token .openBrace
  | case5 depth out rest _ ih => exact (ih.blanks (isBlank_newLine _)).token .openBracket
  | case6 depth out rest ih => exact (ih.token .closeBrace).blanks (isBlank_newLine _)
  | case7 depth out rest ih => exact (ih.token .closeBracket).blanks (isBlank_newLine _)
  | case8 depth out rest ih => exact (ih.blanks (isBlank_newLine _)).token .comma
  | case9 depth out rest ih =>
    rw [show ": " = written .colon ++ " " from rfl, ← String.append_assoc] at ih ⊢
    exact (ih.blanks (List.all_eq_true.mp rfl)).token .colon
  | case10 depth out token rest => exact Adds.token token ‹_›

theorem spells_indented (tokens : List Token) : Spells (indented tokens).toList tokens := by
  obtain ⟨cs, htext, hspells⟩ := adds_indentFrom 0 "" tokens
  rwa [indented, htext]

end Token
end Gossip.Json
