import CredentialRotation.Text.Mark

/-!
# Text — Joining

How the letters of a cursive script join their neighbours, and the two characters that say whether
letters are to be joined.
-/

namespace CredentialRotation.Text

/-- The character that keeps letters from being joined. -/
def nonJoiner : Char := '\u200C'

/-- The character that has letters joined. -/
def joiner : Char := '\u200D'

/-- The letters that join the one after them, the property `Joining_Type` being `L` or `D`.  Code
points that no name holds are disregarded in these tables. -/
def joinsNextRanges : Ranges :=
  [
    (0x0620, 0x0620), (0x0626, 0x0626), (0x0628, 0x0628), (0x062A, 0x062E), (0x0633, 0x063F),
    (0x0641, 0x0647), (0x0649, 0x064A), (0x066E, 0x066F), (0x0679, 0x0687), (0x069A, 0x06BF),
    (0x06C1, 0x06C2), (0x06CC, 0x06CC), (0x06CE, 0x06CE), (0x06D0, 0x06D1), (0x06FA, 0x06FC),
    (0x06FF, 0x06FF), (0x0712, 0x0714), (0x071A, 0x071D), (0x071F, 0x0727), (0x0729, 0x0729),
    (0x072B, 0x072B), (0x072D, 0x072E), (0x074E, 0x0758), (0x075C, 0x076A), (0x076D, 0x0770),
    (0x0772, 0x0772), (0x0775, 0x0777), (0x077A, 0x077F), (0x07CA, 0x07EA), (0x0841, 0x0845),
    (0x0848, 0x0848), (0x084A, 0x0853), (0x0855, 0x0855), (0x0860, 0x0860), (0x0862, 0x0865),
    (0x0868, 0x0868), (0x0886, 0x0886), (0x0889, 0x088D), (0x088F, 0x088F), (0x08A0, 0x08A9),
    (0x08AF, 0x08B0), (0x08B3, 0x08B8), (0x08BA, 0x08C8), (0x1807, 0x1807), (0x1820, 0x1878),
    (0x1887, 0x18A8), (0x18AA, 0x18AA), (0xA840, 0xA872), (0x10AC0, 0x10AC4), (0x10ACD, 0x10ACD),
    (0x10AD3, 0x10ADC), (0x10ADE, 0x10AE0), (0x10AEB, 0x10AEE), (0x10B80, 0x10B80),
    (0x10B82, 0x10B82), (0x10B86, 0x10B88), (0x10B8A, 0x10B8B), (0x10B8D, 0x10B8D),
    (0x10B90, 0x10B90), (0x10BAD, 0x10BAE), (0x10D00, 0x10D21), (0x10D23, 0x10D23),
    (0x10EC3, 0x10EC4), (0x10EC6, 0x10EC7), (0x10F30, 0x10F32), (0x10F34, 0x10F44),
    (0x10F51, 0x10F53), (0x10F70, 0x10F73), (0x10F76, 0x10F81), (0x10FB0, 0x10FB0),
    (0x10FB2, 0x10FB3), (0x10FB8, 0x10FB8), (0x10FBB, 0x10FBC), (0x10FBE, 0x10FBF),
    (0x10FC1, 0x10FC1), (0x10FC4, 0x10FC4), (0x10FCA, 0x10FCB), (0x1E922, 0x1E943)]

/-- The letters that join the one before them, the property `Joining_Type` being `R` or `D`. -/
def joinsPreviousRanges : Ranges :=
  [
    (0x0620, 0x0620), (0x0622, 0x063F), (0x0641, 0x064A), (0x066E, 0x066F), (0x0671, 0x0673),
    (0x0679, 0x06D3), (0x06D5, 0x06D5), (0x06EE, 0x06EF), (0x06FA, 0x06FC), (0x06FF, 0x06FF),
    (0x0710, 0x0710), (0x0712, 0x072F), (0x074D, 0x077F), (0x07CA, 0x07EA), (0x0840, 0x0858),
    (0x0860, 0x0860), (0x0862, 0x0865), (0x0867, 0x0882), (0x0886, 0x0886), (0x0889, 0x088F),
    (0x08A0, 0x08AC), (0x08AE, 0x08C8), (0x1807, 0x1807), (0x1820, 0x1878), (0x1887, 0x18A8),
    (0x18AA, 0x18AA), (0xA840, 0xA871), (0x10AC0, 0x10AC5), (0x10AC7, 0x10AC7), (0x10AC9, 0x10ACA),
    (0x10ACE, 0x10AD6), (0x10AD8, 0x10AE1), (0x10AE4, 0x10AE4), (0x10AEB, 0x10AEF),
    (0x10B80, 0x10B91), (0x10BA9, 0x10BAE), (0x10D01, 0x10D23), (0x10EC2, 0x10EC4),
    (0x10EC6, 0x10EC7), (0x10F30, 0x10F44), (0x10F51, 0x10F54), (0x10F70, 0x10F81),
    (0x10FB0, 0x10FB0), (0x10FB2, 0x10FB6), (0x10FB8, 0x10FBF), (0x10FC1, 0x10FC4),
    (0x10FC9, 0x10FCA), (0x1E922, 0x1E943)]

/-- A character through which letters join, the property `Joining_Type` being `T`. -/
def isTransparent (c : Char) : Bool := isNonspacingMark c || c.toNat = 0x1E94B

/-- The first character that is not transparent lies in the ranges. -/
def leadsWith (ranges : Ranges) (cs : List Char) : Bool :=
  match cs.dropWhile isTransparent with
  | [] => false
  | c :: _ => ranges.covers c

/-- A joiner or non-joiner `c` makes a difference between the characters `before` it, nearest first,
and those `after` it: it follows a virama, or it keeps apart two letters that would join. -/
def joinerMatters (c : Char) (before after : List Char) : Bool :=
  (match before with
    | [] => false
    | previous :: _ => combiningClass previous = viramaClass) ||
  (c = nonJoiner && leadsWith joinsNextRanges before && leadsWith joinsPreviousRanges after)

/-- Every joiner and non-joiner makes a difference, `before` being what has been read. -/
def joinersMatterFrom (before : List Char) : List Char → Bool
  | [] => true
  | c :: after =>
    ((c ≠ joiner && c ≠ nonJoiner) || joinerMatters c before after) &&
      joinersMatterFrom (c :: before) after

/-- Every joiner and non-joiner makes a difference. -/
def joinersMatter (cs : List Char) : Bool := joinersMatterFrom [] cs

end CredentialRotation.Text
