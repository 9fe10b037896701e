import Gossip.Json.Parser
import Gossip.Json.Printer
import Gossip.Proofs.Json.Scanning

/-! What is printed is parsed.

The tokens of a value lead the machine from where a value is to come to where the value is placed
(`run_tokens`), whatever is open around it. They are legible if every number in the value is a
numeral (`WellFormed`), so that the texts of such a value, with blanks and without, are parsed into
it (`parse?_compact`, `parse?_indented`). -/
namespace Gossip.Json

/-- What holds of a container if it holds of all that is in it holds of every value. -/
theorem induction {motive : Json → Prop} (null : motive .null)
    (bool : ∀ value, motive (.bool value)) (number : ∀ numeral, motive (.number numeral))
    (text : ∀ content, motive (.text content))
    (array : ∀ elements, (∀ element ∈ elements, motive element) → motive (.array elements))
    (object : ∀ members, (∀ member ∈ members, motive member.2) → motive (.object members)) :
    ∀ value, motive value
  | .null => null
  | .bool value => bool value
  | .number numeral => number numeral
  | .text content => text content
  | .array elements => array elements fun element _ =>
    induction null bool number text array object element
  | .object members => object members fun member hmember =>
    have : sizeOf member.2 < 1 + sizeOf members := by
      have hsize := List.sizeOf_lt_of_mem hmember
      have hvalue : sizeOf member = 1 + sizeOf member.1 + sizeOf member.2 := rfl
      omega
    induction null bool number text array object member.2

/-! ### The tokens of a value -/

/-- What a container holds after its first element or member. -/
def later (parts : List (List Token)) : List Token := parts.flatMap fun part => .comma :: part

theorem later_cons (part : List Token) (parts : List (List Token)) (rest : List Token) :
    later (part :: parts) ++ rest = .comma :: (part ++ (later parts ++ rest)) := by
  simp [later]

def memberTokens (member : Option String × Json) : List Token :=
  .text member.1 :: .colon :: member.2.tokens

/-- The tokens before a value are left as they are. -/
def PushesOnto (value : Json) : Prop :=
  ∀ before, pushTokens before value = value.tokens.reverse ++ before

theorem pushElements_eq {elements : List Json} (h : ∀ element ∈ elements, PushesOnto element)
    (before : List Token) :
    pushElements before elements = (later (elements.map tokens)).reverse ++ before := by
  induction elements generalizing before with
  | nil => rfl
  | cons element rest ih =>
    rw [List.forall_mem_cons] at h
    simp [pushElements, h.1 _, ih h.2, later]

theorem pushMembers_eq {members : List (Option String × Json)}
    (h : ∀ member ∈ members, PushesOnto member.2) (before : List Token) :
    pushMembers before members = (later (members.map memberTokens)).reverse ++ before := by
  induction members generalizing before with
  | nil => rfl
  | cons member rest ih =>
    rw [List.forall_mem_cons] at h
    simp [pushMembers, h.1 _, ih h.2, later, memberTokens]

theorem pushTokens_array_cons {element : Json} {rest : List Json}
    (h : ∀ other ∈ element :: rest, PushesOnto other) (before : List Token) :
    pushTokens before (.array (element :: rest)) =
      .closeBracket :: ((later (rest.map tokens)).reverse ++
        (element.tokens.reverse ++ .openBracket :: before)) := by
  rw [List.forall_mem_cons] at h
  rw [pushTokens, pushElements_eq h.2, h.1]

theorem pushTokens_object_cons {member : Option String × Json}
    {rest : List (Option String × Json)} (h : ∀ other ∈ member :: rest, PushesOnto other.2)
    (before : List Token) :
    pushTokens before (.object (member :: rest)) =
      .closeBrace :: ((later (rest.map memberTokens)).reverse ++
        ((memberTokens member).reverse ++ .openBrace :: before)) := by
  rw [List.forall_mem_cons] at h
  rw [pushTokens, pushMembers_eq h.2, h.1]
  simp [memberTokens]

theorem pushesOnto (value : Json) : PushesOnto value := by
  induction value using Json.induction with
  | null | bool | number | text => exact fun _ => rfl
  | array elements ih =>
    intro before
    cases elements with
    | nil => rfl
    | cons element rest =>
      rw [tokens, pushTokens_array_cons ih, pushTokens_array_cons ih]
      simp
  | object members ih =>
    intro before
    cases members with
    | nil => rfl
    | cons member rest =>
      rw [tokens, pushTokens_object_cons ih, pushTokens_object_cons ih]
      simp

theorem tokens_array_cons (element : Json) (rest : List Json) :
    (array (element :: rest)).tokens =
      .openBracket :: (element.tokens ++ (later (rest.map tokens) ++ [.closeBracket])) := by
  rw [tokens, pushTokens_array_cons fun other _ => pushesOnto other]
  simp

theorem tokens_object_cons (member : Option String × Json) (rest : List (Option String × Json)) :
    (object (member :: rest)).tokens =
      .openBrace :: (memberTokens member ++ (later (rest.map memberTokens) ++ [.closeBrace])) := by
  rw [tokens, pushTokens_object_cons fun other _ => pushesOnto other.2]
  simp

/-- A value does not start with the end of an array. -/
theorem exists_tokens_eq_cons (value : Json) :
    ∃ first rest, value.tokens = first :: rest ∧ first ≠ .closeBracket := by
  match value with
  | .null | .bool _ | .number _ | .text _ => exact ⟨_, _, rfl, by simp⟩
  | .array [] => exact ⟨_, _, rfl, by simp⟩
  | .array (_ :: _) => exact ⟨_, _, tokens_array_cons .., by simp⟩
  | .object [] => exact ⟨_, _, rfl, by simp⟩
  | .object (_ :: _) => exact ⟨_, _, tokens_object_cons .., by simp⟩

/-! ### The machine on the tokens of a value -/

namespace Position

/-- The tokens of a value put it where it belongs. -/
def Places (value : Json) : Prop :=
  ∀ outer rest, run (.beforeValue outer) (value.tokens ++ rest) = run (place value outer) rest

/-- The first element of an array is a value like any other. -/
theorem run_afterBracket (value : Json) (outer : List Container) (rest : List Token) :
    run (.afterBracket outer) (value.tokens ++ rest) =
      run (.beforeValue (.array [] :: outer)) (value.tokens ++ rest) := by
  obtain ⟨first, others, htokens, hne⟩ := exists_tokens_eq_cons value
  have hstep : step (.afterBracket outer) first =
      step (.beforeValue (.array [] :: outer)) first := by
    cases first with
    | closeBracket => exact absurd rfl hne
    | _ => rfl
  simp only [htokens, List.cons_append, run, hstep]

theorem run_laterElements {elements : List Json} (h : ∀ element ∈ elements, Places element)
    (before : List Json) (outer : List Container) (rest : List Token) :
    run (.afterElement before outer) (later (elements.map tokens) ++ .closeBracket :: rest) =
      run (place (.array (before.reverse ++ elements)) outer) rest := by
  induction elements generalizing before with
  | nil => simp [later, run, step]
  | cons element elements ih =>
    rw [List.forall_mem_cons] at h
    simp only [List.map_cons, later_cons, run, step]
    rw [h.1, place, ih h.2]
    simp

theorem run_laterMembers {members : List (Option String × Json)}
    (h : ∀ member ∈ members, Places member.2) (before : List (Option String × Json))
    (outer : List Container) (rest : List Token) :
    run (.afterMember before outer) (later (members.map memberTokens) ++ .closeBrace :: rest) =
      run (place (.object (before.reverse ++ members)) outer) rest := by
  induction members generalizing before with
  | nil => simp [later, run, step]
  | cons member members ih =>
    rw [List.forall_mem_cons] at h
    simp only [List.map_cons, later_cons, memberTokens, List.cons_append, run, step]
    rw [h.1, place, ih h.2]
    simp

theorem run_tokens (value : Json) : Places value := by
  induction value using Json.induction with
  | null | bool | number | text => exact fun _ _ => rfl
  | array elements ih =>
    intro outer rest
    cases elements with
    | nil => rfl
    | cons element elements =>
      rw [List.forall_mem_cons] at ih
      simp only [tokens_array_cons, List.cons_append, List.append_assoc, run, step, beginValue]
      rw [run_afterBracket, ih.1, place, List.nil_append, run_laterElements ih.2]
      rfl
  | object members ih =>
    intro outer rest
    cases members with
    | nil => rfl
    | cons member members =>
      rw [List.forall_mem_cons] at ih
      simp only [tokens_object_cons, memberTokens, List.cons_append, List.append_assoc, run, step,
        beginValue]
      rw [ih.1, place, List.nil_append, run_laterMembers ih.2]
      rfl

end Position

theorem ofTokens?_tokens (value : Json) : ofTokens? value.tokens = some value := by
  have h := Position.run_tokens value [] []
  rw [List.append_nil] at h
  rw [ofTokens?, h]
  rfl

/-! ### Legible values -/

/-- Every number in a value is a numeral. -/
inductive WellFormed : Json → Prop
  | null : WellFormed .null
  | bool (value : Bool) : WellFormed (.bool value)
  | number {numeral : String} (h : isNumeral numeral.toList = true) : WellFormed (.number numeral)
  | text (content : Option String) : WellFormed (.text content)
  | array {elements : List Json} (h : ∀ element ∈ elements, WellFormed element) :
    WellFormed (.array elements)
  | object {members : List (Option String × Json)} (h : ∀ member ∈ members, WellFormed member.2) :
    WellFormed (.object members)

open Token (Legible)

/-- Legible, and no word or numeral first. -/
def MarkFirst (tokens : List Token) : Prop :=
  Legible tokens ∧ ∀ token ∈ tokens.head?, token.isWord = false

theorem MarkFirst.cons {mark : Token} {rest : List Token} (hmark : mark.isWord = false)
    (h : Legible rest) : MarkFirst (mark :: rest) :=
  ⟨.mark hmark h, by rintro _ ⟨⟩; exact hmark⟩

/-- Is a part of a value legible in front of a mark? -/
def LegibleBefore (part : List Token) : Prop := ∀ rest, MarkFirst rest → Legible (part ++ rest)

/-- After a part come further ones or the mark that ends what holds it. -/
theorem markFirst_later {parts : List (List Token)} (h : ∀ part ∈ parts, LegibleBefore part)
    {rest : List Token} (hrest : MarkFirst rest) : MarkFirst (later parts ++ rest) := by
  induction parts with
  | nil => exact hrest
  | cons part parts ih =>
    rw [List.forall_mem_cons] at h
    rw [later_cons]
    exact .cons rfl (h.1 _ (ih h.2))

/-- A container is legible if its parts are. -/
theorem legibleBefore_container {opening closing : Token} (hopening : opening.isWord = false)
    (hclosing : closing.isWord = false) {part : List Token} {parts : List (List Token)}
    (h : ∀ other ∈ part :: parts, LegibleBefore other) :
    LegibleBefore (opening :: (part ++ (later parts ++ [closing]))) := by
  intro rest hrest
  rw [List.forall_mem_cons] at h
  simp only [List.cons_append, List.append_assoc]
  exact .mark hopening (h.1 _ (markFirst_later h.2 (.cons hclosing hrest.1)))

theorem legibleBefore_member {member : Option String × Json}
    (h : LegibleBefore member.2.tokens) : LegibleBefore (memberTokens member) :=
  fun rest hrest => .mark rfl (.mark rfl (h rest hrest))

theorem WellFormed.legibleBefore {value : Json} (h : WellFormed value) :
    LegibleBefore value.tokens := by
  induction h with
  | null | bool => exact fun rest hrest => .word rfl trivial hrest.2 hrest.1
  | number h => exact fun rest hrest => .word rfl h hrest.2 hrest.1
  | text => exact fun rest hrest => .mark rfl hrest.1
  | @array elements _ ih =>
    cases elements with
    | nil => exact fun rest hrest => .mark rfl (.mark rfl hrest.1)
    | cons element elements =>
      rw [tokens_array_cons]
      refine legibleBefore_container rfl rfl ?_
      simpa only [← List.map_cons, List.forall_mem_map] using ih
  | @object members _ ih =>
    cases members with
    | nil => exact fun rest hrest => .mark rfl (.mark rfl hrest.1)
    | cons member members =>
      rw [tokens_object_cons]
      refine legibleBefore_container rfl rfl ?_
      simpa only [← List.map_cons, List.forall_mem_map] using
        fun other hother => legibleBefore_member (ih other hother)

theorem WellFormed.legible {value : Json} (h : WellFormed value) : Legible value.tokens := by
  simpa using h.legibleBefore [] ⟨.nil, by simp⟩

/-! ### Texts -/

theorem parse?_compact {value : Json} (h : WellFormed value) : parse? value.compact = some value := by
  rw [parse?, compact, (Token.spells_compact value.tokens).scan h.legible]
  exact ofTokens?_tokens value

theorem parse?_indented {value : Json} (h : WellFormed value) :
    parse? value.indented = some value := by
  rw [parse?, indented, (Token.spells_indented value.tokens).scan h.legible]
  exact ofTokens?_tokens value

end Gossip.Json
