import TexBuild.Proofs.Text.Utf8
import TexBuild.Build.Supervision

namespace TexBuild

open Utf8 (Reads decode encode isAscii)

variable (stdout stderr : List (List UInt8))

/-- The line feed between the streams is one that could have come from the engine: the log is
what all the octets in a row say. -/
theorem joinOutput_eq_decode :
    joinOutput stdout stderr = decode (stdout.flatten ++ 0x0A :: stderr.flatten) :=
  (Utf8.decode_append_ascii (b := 0x0A) (by decide) _ _).symm

theorem joinOutput_of_encode {s t : List Char} (out : stdout.flatten = encode s)
    (err : stderr.flatten = encode t) : joinOutput stdout stderr = s ++ '\n' :: t := by
  rw [joinOutput, out, err, Utf8.decode_encode, Utf8.decode_encode]

/-- The log is the one reading of what the engine wrote, its streams with a line feed between and
in whatever pieces they came. Its lines are the lines written, each read for itself, and an ASCII
character is never lost, whatever precedes it; streams that are texts come out as these. -/
theorem joinOutput_keeps_structure :
    let octets := stdout.flatten ++ 0x0A :: stderr.flatten
    let log := joinOutput stdout stderr
    (∀ cs, Reads octets cs ↔ cs = log) ∧ log = decode octets ∧
      (∀ stdout' stderr', stdout'.flatten = stdout.flatten → stderr'.flatten = stderr.flatten →
        joinOutput stdout' stderr' = log) ∧
      Text.lines log = (octets.splitOn 0x0A).map decode ∧
      (∀ before b after, octets = before ++ b :: after → isAscii b = true →
        log = decode before ++ Char.ofNat b.toNat :: decode after) ∧
      log.filter (·.toNat < 0x80) = (octets.filter isAscii).map (fun b => Char.ofNat b.toNat) ∧
      ∀ s t, stdout.flatten = encode s → stderr.flatten = encode t → log = s ++ '\n' :: t := by
  intro octets log
  have whole : log = decode octets := joinOutput_eq_decode stdout stderr
  refine ⟨fun cs => ?_, whole, fun stdout' stderr' out err => ?_, ?_,
    fun before b after cut ascii => ?_, ?_, fun s t => joinOutput_of_encode stdout stderr⟩
  · rw [whole]
    exact Utf8.reads_iff
  · rw [joinOutput, out, err]
    rfl
  · rw [whole]
    exact Utf8.lines_decode octets
  · rw [whole, cut]
    exact Utf8.decode_append_ascii ascii before after
  · rw [whole]
    exact Utf8.filter_decode octets

/-- A character that is cut between two pieces is still one. -/
theorem joinOutput_cut_character :
    joinOutput [[0x61, 0xE2, 0x82], [0xAC]] [[0x21]] = ['a', '€', '\n', '!'] :=
  (joinOutput_keeps_structure [[0x61, 0xE2, 0x82], [0xAC]] [[0x21]]).2.2.2.2.2.2 ['a', '€'] ['!']
    (by decide) (by decide)

/-- One that is cut by the end of its stream takes nothing of the next one with it. -/
example : joinOutput [[0x61, 0xE2, 0x82]] [[0xAC, 0x21]] =
    ['a', Utf8.replacement, '\n', Utf8.replacement, '!'] := by
  decide

end TexBuild
