import LlmUniversalProxy.Lib.Utf8

/-!
# `Lib.Lines` — files of lines

A file is written line by line, each with a line feed behind it, and read the way a buffered reader
does: a line ends at a line feed, which a carriage return may come before, or with the file.
-/

set_option autoImplicit false

namespace LlmUniversalProxy.Lib.Lines

def newline : UInt8 := 10
def carriageReturn : UInt8 := 13

/-- `String::from_utf8`: the text, if these are the bytes of one. -/
def fromUtf8 (bytes : List UInt8) : Option String :=
  let text := String.ofList (Utf8.fromUtf8Lossy bytes)
  if bytesOf text = bytes then some text else none

@[simp] theorem fromUtf8_bytesOf (s : String) : fromUtf8 (bytesOf s) = some s := by
  unfold fromUtf8
  rw [Utf8.fromUtf8Lossy_bytesOf, String.ofList_toList]
  exact if_pos rfl

/-- A line without the carriage return at its end. -/
def stripReturn (line : List UInt8) : List UInt8 :=
  if line.getLast? = some carriageReturn then line.dropLast else line

/-- The lines behind the part of a line that was read. -/
def linesFrom (line : List UInt8) : List UInt8 → List (List UInt8)
  | [] => if line.isEmpty then [] else [line]
  | b :: rest =>
      if b = newline then stripReturn line :: linesFrom [] rest else linesFrom (line ++ [b]) rest

/-- `BufRead::lines`, as bytes. -/
def readLines (bytes : List UInt8) : List (List UInt8) := linesFrom [] bytes

/-- A line as it is written. -/
def writeLine (line : List UInt8) : List UInt8 := line ++ [newline]

theorem stripReturn_of_notMem {line : List UInt8} (h : carriageReturn ∉ line) :
    stripReturn line = line := by
  refine if_neg fun hlast => ?_
  exact h (List.mem_of_getLast? hlast)

theorem linesFrom_append {line rest : List UInt8} (hnewline : newline ∉ line) (before : List UInt8) :
    linesFrom before (line ++ newline :: rest) =
      stripReturn (before ++ line) :: linesFrom [] rest := by
  induction line generalizing before with
  | nil => rw [List.nil_append, linesFrom, if_pos rfl, List.append_nil]
  | cons b line ih =>
    rw [List.mem_cons, not_or] at hnewline
    rw [List.cons_append, linesFrom, if_neg (Ne.symm hnewline.1), ih hnewline.2, List.append_assoc]
    rfl

/-- **What is written line by line is read line by line.** -/
theorem readLines_writeLine {lines : List (List UInt8)}
    (hlines : ∀ line ∈ lines, newline ∉ line ∧ carriageReturn ∉ line) :
    readLines (lines.flatMap writeLine) = lines := by
  induction lines with
  | nil => rfl
  | cons line lines ih =>
    obtain ⟨hnewline, hreturn⟩ := hlines line List.mem_cons_self
    have hrest := ih fun other hother => hlines other (List.mem_cons_of_mem _ hother)
    rw [List.flatMap_cons, writeLine, List.append_assoc, List.singleton_append, readLines,
      linesFrom_append hnewline, List.nil_append, stripReturn_of_notMem hreturn]
    exact congrArg (line :: ·) hrest

end LlmUniversalProxy.Lib.Lines
