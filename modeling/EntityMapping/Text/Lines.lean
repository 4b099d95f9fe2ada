/-!
# Lines of a text

A line ends at a line feed, and a carriage return directly before that line
feed belongs to the line ending.  A text that ends with a line ending has no
further empty line after it.
-/

namespace EntityMapping.Text

/-- The lines of a text without their endings. -/
def lines : List Char → List (List Char)
  | [] => []
  | '\n' :: rest => [] :: lines rest
  | '\r' :: '\n' :: rest => [] :: lines rest
  | first :: rest =>
      match lines rest with
      | [] => [[first]]
      | line :: more => (first :: line) :: more

theorem lines_eq_nil_iff (text : List Char) : lines text = [] ↔ text = [] := by
  fun_cases lines text <;> simp_all

/-- No line contains a line feed. -/
theorem line_feed_not_mem_of_mem_lines {text line : List Char}
    (member : line ∈ lines text) : '\n' ∉ line := by
  induction text using lines.induct generalizing line with
  | case1 => simp [lines] at member
  | case2 rest ih =>
      simp only [lines, List.mem_cons] at member
      rcases member with rfl | member
      · simp
      · exact ih member
  | case3 rest ih =>
      simp only [lines, List.mem_cons] at member
      rcases member with rfl | member
      · simp
      · exact ih member
  | case4 first rest notFeed notReturn none ih =>
      rw [lines] at member
      · simp only [none, List.mem_singleton] at member
        subst member
        simpa using fun equal : '\n' = first => notFeed equal.symm
      · exact notFeed
      · exact notReturn
  | case5 first rest notFeed notReturn head more found ih =>
      rw [lines] at member
      · simp only [found, List.mem_cons] at member
        rcases member with rfl | member
        · have headClean : '\n' ∉ head := ih (by simp [found])
          simpa [headClean] using fun equal : '\n' = first => notFeed equal.symm
        · exact ih (by simp [found, member])
      · exact notFeed
      · exact notReturn

end EntityMapping.Text
