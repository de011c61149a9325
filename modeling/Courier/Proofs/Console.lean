import Courier.Console
import Courier.Proofs.Text.Blank
import Courier.Proofs.Text.Case

/-!
# `Courier.Proofs.Console`: lines that say what a command of the command line says

The words of the command line come apart. A line of the console has to be taken apart, and what is
in it may have blanks of its own, of any kind. `CallLine` and `EncodeLine` say how a call and a text
to encode are written as lines. Such a line has the plan of the command it writes: the one of the
operation (`plan_of_callLine`), or the one that shows the encoded text (`plan_of_encodeLine`).

A payload on the command line can also be the name of a file, and one in a line cannot. So a line
writes an operation only if its payload does not look like the name of a file.
-/

set_option autoImplicit false

namespace Courier.Console

open Courier.Text (IsWord IsGap IsContent)

/-- The lines of a call: the method in any case, the endpoint, and the payload, if there is one,
with gaps between them. -/
inductive CallLine (method : Method) (endpoint : String) : Option String → String → Prop
  | bare {word gap : String} (named : Http.sameName word method.name = true) (apart : IsGap gap)
      (below : IsWord endpoint) : CallLine method endpoint none (word ++ gap ++ endpoint)
  | carrying {word gap gap' data : String} (named : Http.sameName word method.name = true)
      (apart : IsGap gap) (below : IsWord endpoint) (apart' : IsGap gap') (content : IsContent data)
      (plain : data.toList.head? ≠ some '@') :
      CallLine method endpoint (some data) (word ++ gap ++ (endpoint ++ gap' ++ data))

/-- The lines of a text to encode: the command in any case, a name of the encoding, and the text. -/
inductive EncodeLine (encoding : QueryEncoding) (text : String) : String → Prop
  | mk {word gap name gap' : String} (named : Http.sameName word "encode" = true)
      (apart : IsGap gap) (valid : QueryEncoding.parse name = .ok encoding) (apart' : IsGap gap')
      (content : IsContent text) :
      EncodeLine encoding text (word ++ gap ++ (name ++ gap' ++ text))

/-! ### The words of commands -/

/-- The word is written in lower case already. -/
theorem lowercase_encode : Text.lowercase "encode" = "encode" := by
  rw [Text.lowercase_ascii (by simp)]
  rfl

/-- The names of methods are ASCII. -/
theorem name_ascii (method : Method) : ∀ c ∈ method.name.toList, c.toNat < 128 := by
  cases method <;> simp [Method.name]

/-- So they are put in lower case letter by letter. -/
theorem lowercase_name (method : Method) :
    Text.lowercase method.name = String.ofList (method.name.toList.map Char.toLower) :=
  Text.lowercase_ascii (name_ascii method)

/-- The lower-case form of a name stands for the method. -/
theorem method?_lowercase_name (method : Method) :
    method? (Text.lowercase method.name) = some method := by
  simp only [method?, lowercase_name]
  cases method <;> rfl

/-- The name of a method is one word. -/
theorem isWord_lowercase_name (method : Method) : IsWord (Text.lowercase method.name) := by
  rw [lowercase_name]
  cases method <;> exact ⟨by decide, by simp [Method.name, Text.isBlank]⟩

/-- A name of a method in any case is a word, and stands for the method. -/
theorem method?_of_sameName {word : String} {method : Method}
    (h : Http.sameName word method.name = true) :
    IsWord word ∧ method? (Text.lowercase word) = some method := by
  have hlower := Text.lowercase_of_sameName h (name_ascii method)
  constructor
  · apply Text.isWord_of_lowercase
    rw [hlower]
    exact isWord_lowercase_name method
  · rw [hlower]
    exact method?_lowercase_name method

/-- No method has the name of the other command. -/
theorem method?_encode : method? "encode" = none := by
  simp only [method?, lowercase_name]
  rfl

/-- That word in any case is one word, and means the same. -/
theorem encode_of_sameName {word : String} (h : Http.sameName word "encode" = true) :
    IsWord word ∧ Text.lowercase word = "encode" := by
  have hlower := Text.lowercase_of_sameName h (by simp)
  rw [lowercase_encode] at hlower
  refine ⟨Text.isWord_of_lowercase ?_, hlower⟩
  rw [hlower]
  exact ⟨by decide, by simp [Text.isBlank]⟩

/-- A name of an encoding is a word. -/
theorem isWord_of_parse {name : String} {encoding : QueryEncoding}
    (h : QueryEncoding.parse name = .ok encoding) : IsWord name := by
  have hnames : Text.lowercase name = "hex" ∨ Text.lowercase name = "base32" ∨
      Text.lowercase name = "base-32" := by
    by_contra hother
    obtain ⟨hhex, hbase⟩ := not_or.mp hother
    unfold QueryEncoding.parse at h
    dsimp only at h
    rw [if_neg hhex, if_neg hbase] at h
    cases h
  apply Text.isWord_of_lowercase
  rcases hnames with hname | hname | hname
  · rw [hname]
    exact ⟨by decide, by simp [Text.isBlank]⟩
  · rw [hname]
    exact ⟨by decide, by simp [Text.isBlank]⟩
  · rw [hname]
    exact ⟨by decide, by simp [Text.isBlank]⟩

/-! ### The plans of lines -/

section
variable {method : Method} {endpoint line : String} {data? : Option String}
  {encoding : QueryEncoding} {text : String}

/-- The command word is told from the rest of the line by the gap between them. -/
theorem split_eq {word gap rest : String} (hword : IsWord word) (hgap : IsGap gap)
    (hrest : IsContent rest) : split (word ++ gap ++ rest) = (Text.lowercase word, rest) := by
  obtain ⟨after, hsplit, htrim⟩ := Text.splitAtBlank_gap hword hgap hrest
  rw [split, hsplit]
  dsimp only
  rw [htrim]

/-- Without an at sign in front, no file is meant. -/
theorem file?_eq_none {data : String} (h : data.toList.head? ≠ some '@') :
    Payload.file? data = none := by
  unfold Payload.file?
  split
  case h_1 path hpath => exact absurd (congrArg List.head? hpath) h
  case h_2 => rfl

/-- Then the argument is the payload itself. -/
theorem ofArgument_of_plain (disk : Disk) {data : String} (h : data.toList.head? ≠ some '@') :
    Payload.ofArgument disk data = Payload.ofText data := by
  rw [Payload.ofArgument, file?_eq_none h]

/-- There are no blanks at the ends of a line of a call. -/
theorem CallLine.isContent (h : CallLine method endpoint data? line) : IsContent line := by
  cases h with
  | bare named _ below =>
    exact (method?_of_sameName named).1.isContent.append below.isContent _
  | carrying named _ below _ content _ =>
    exact (method?_of_sameName named).1.isContent.append (below.isContent.append content _) _

/-- A line that encodes has content, and none of its ends is blank. -/
theorem EncodeLine.isContent (h : EncodeLine encoding text line) : IsContent line := by
  obtain ⟨named, _, valid, _, content⟩ := h
  have hrest := (isWord_of_parse valid).isContent.append content
  exact (encode_of_sameName named).1.isContent.append (hrest _) _

/-- A line that begins with a method has the plan of a call. -/
theorem plan_eq_call {word rest : String} (hsplit : split line = (word, rest))
    (hmethod : method? word = some method) (disk : Disk) (colored : Bool) (active : ActiveSite) :
    plan disk colored active line = call method word rest := by
  rw [plan, hsplit]
  dsimp only
  rw [hmethod]

/-- A line of a call has the plan of the operation, whatever the disk and the active site are. -/
theorem plan_of_callLine (h : CallLine method endpoint data? line) (disk : Disk) (colored : Bool)
    (active : ActiveSite) :
    plan disk colored active line = (Operation.call method endpoint data?).plan disk := by
  cases h with
  | bare named apart below =>
    obtain ⟨hword, hmethod⟩ := method?_of_sameName named
    have hsplit := split_eq hword apart below.isContent
    -- the endpoint has no blanks, so there is nothing behind it
    rw [plan_eq_call hsplit hmethod, call, below.splitAtBlank_eq]
    dsimp only
    rw [if_neg (by simpa using below.nonempty), Operation.plan]
  | @carrying word gap gap' data named apart below apart' content plain =>
    obtain ⟨hword, hmethod⟩ := method?_of_sameName named
    have hsplit := split_eq hword apart (below.isContent.append content gap')
    obtain ⟨after, hrest, htrim⟩ := Text.splitAtBlank_gap below apart' content
    rw [plan_eq_call hsplit hmethod, call, hrest]
    dsimp only
    rw [if_neg (by simpa using below.nonempty), htrim, Operation.plan,
      ofArgument_of_plain disk plain]

/-- A line with a text to encode has the plan that shows it encoded. -/
theorem plan_of_encodeLine (h : EncodeLine encoding text line) (disk : Disk) (colored : Bool)
    (active : ActiveSite) :
    plan disk colored active line = (Command.encoded disk encoding text false).map .show := by
  obtain @⟨word, gap, name, gap', named, apart, valid, apart', content⟩ := h
  obtain ⟨hword, hlower⟩ := encode_of_sameName named
  have hname := isWord_of_parse valid
  have hsplit := split_eq hword apart (hname.isContent.append content gap')
  obtain ⟨after, hrest, htrim⟩ := Text.splitAtBlank_gap hname apart' content
  rw [hlower] at hsplit
  rw [plan, hsplit]
  dsimp only
  rw [method?_encode]
  dsimp only
  rw [if_neg (by decide), if_neg (by decide), if_neg (by decide), if_neg (by decide),
    if_pos rfl, encode, hrest]
  dsimp only
  rw [valid, htrim]

end

end Courier.Console
