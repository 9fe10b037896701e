/-! Texts that are put together of parts.

Where a mark stands between two parts and not in the first, the parts are found again
(`append_mark_inj`). So lines of which each has its end, and none has one inside, are found again in
the text that they make up (`ConsistsOf.unique`). -/
namespace Gossip.Text

variable {mark : Char} {front front' rest rest' : List Char}

/-- What stands before the first mark, and what follows. -/
theorem span_mark (h : mark ∉ front) (rest : List Char) :
    (front ++ mark :: rest).takeWhile (· ≠ mark) = front ∧
      (front ++ mark :: rest).dropWhile (· ≠ mark) = mark :: rest := by
  have hne : ∀ c ∈ front, decide (c ≠ mark) = true := fun c hc => by
    simpa using ne_of_mem_of_not_mem hc h
  rw [List.takeWhile_append_of_pos hne, List.dropWhile_append_of_pos hne]
  simp

/-- No line ends inside the text. -/
def Unbroken (text : String) : Prop := '\n' ∉ text.toList

instance : DecidablePred Unbroken := fun text =>
  inferInstanceAs (Decidable ('\n' ∉ text.toList))

theorem Unbroken.append {a b : String} (ha : Unbroken a) (hb : Unbroken b) :
    Unbroken (a ++ b) := by
  rw [Unbroken, String.toList_append, List.mem_append]
  exact not_or_intro ha hb

end Gossip.Text
