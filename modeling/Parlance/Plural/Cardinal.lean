import Parlance.Plural.Rule

namespace Parlance.Plural

/-! # Rules for counting

The rules of the languages for counting whole numbers. A language that is not in the table
gives every number the category `other`.
-/

def cardinalRules : List (List String × Rule) := [
  (["am", "as", "bn", "doi", "fa", "gu", "hi", "kn", "kok", "pcm", "tg", "vi", "zu"], [
      (.one, [[sized [(0, 0)]], [sized [(1, 1)]]])]),
  (["hy"], [(.one, [[sized [(0, 0), (1, 1)]]])]),
  (["fr", "pt"], [
      (.one, [[sized [(0, 1)]]]),
      (.many, [[notSized [(0, 0)], ending 1000000 [(0, 0)]]])]),
  (["ast", "de", "en", "et", "fi", "fy", "ia", "ie", "lij", "nl", "sc", "sv", "sw", "ur"], [
      (.one, [[sized [(1, 1)]]])]),
  (["he"], [(.one, [[sized [(1, 1)]]]), (.two, [[sized [(2, 2)]]])]),
  (["cs", "sk"], [(.one, [[sized [(1, 1)]]]), (.few, [[sized [(2, 4)]]])]),
  (["ro"], [
      (.one, [[sized [(1, 1)]]]),
      (.few, [[sized [(0, 0)]], [notSized [(1, 1)], ending 100 [(1, 19)]]])]),
  (["pl"], [
      (.one, [[sized [(1, 1)]]]),
      (.few, [[ending 10 [(2, 4)], notEnding 100 [(12, 14)]]]),
      (.many, [
        [notSized [(1, 1)], ending 10 [(0, 1)]],
        [ending 10 [(5, 9)]],
        [ending 100 [(12, 14)]]])]),
  (["ca", "gl", "it", "lld", "scn", "vec"], [
      (.one, [[sized [(1, 1)]]]),
      (.many, [[notSized [(0, 0)], ending 1000000 [(0, 0)]]])]),
  (["br"], [
      (.one, [[ending 10 [(1, 1)], notEnding 100 [(11, 11), (71, 71), (91, 91)]]]),
      (.two, [[ending 10 [(2, 2)], notEnding 100 [(12, 12), (72, 72), (92, 92)]]]),
      (.few, [[ending 10 [(3, 4), (9, 9)], notEnding 100 [(10, 19), (70, 79), (90, 99)]]]),
      (.many, [[notSized [(0, 0)], ending 1000000 [(0, 0)]]])]),
  (["lt"], [
      (.one, [[ending 10 [(1, 1)], notEnding 100 [(11, 19)]]]),
      (.few, [[ending 10 [(2, 9)], notEnding 100 [(11, 19)]]])]),
  (["be"], [
      (.one, [[ending 10 [(1, 1)], notEnding 100 [(11, 11)]]]),
      (.few, [[ending 10 [(2, 4)], notEnding 100 [(12, 14)]]]),
      (.many, [[ending 10 [(0, 0)]], [ending 10 [(5, 9)]], [ending 100 [(11, 14)]]])]),
  (["si"], [(.one, [[sized [(0, 0), (1, 1)]]])]),
  (["ak", "bho", "csw", "nso", "pa", "ti"], [(.one, [[sized [(0, 1)]]])]),
  (["af", "az", "bg", "brx", "chr", "ckb", "ee", "el", "eo", "eu", "fo", "ha", "hu", "ka",
      "kk", "ks", "ku", "ky", "lb", "ml", "mn", "mr", "ne", "no", "om", "or", "ps", "rm", "sd",
      "so", "sq", "st", "syr", "ta", "te", "tk", "tn", "tr", "ug", "uz", "xh"], [
      (.one, [[sized [(1, 1)]]])]),
  (["da"], [(.one, [[sized [(1, 1)]]])]),
  (["gd"], [
      (.one, [[sized [(1, 1), (11, 11)]]]),
      (.two, [[sized [(2, 2), (12, 12)]]]),
      (.few, [[sized [(3, 10), (13, 19)]]])]),
  (["es"], [(.one, [[sized [(1, 1)]]]), (.many, [[notSized [(0, 0)], ending 1000000 [(0, 0)]]])]),
  (["sat"], [(.one, [[sized [(1, 1)]]]), (.two, [[sized [(2, 2)]]])]),
  (["mt"], [
      (.one, [[sized [(1, 1)]]]),
      (.two, [[sized [(2, 2)]]]),
      (.few, [[sized [(0, 0)]], [ending 100 [(3, 10)]]]),
      (.many, [[ending 100 [(11, 19)]]])]),
  (["ga"], [
      (.one, [[sized [(1, 1)]]]),
      (.two, [[sized [(2, 2)]]]),
      (.few, [[sized [(3, 6)]]]),
      (.many, [[sized [(7, 10)]]])]),
  (["is"], [(.one, [[ending 10 [(1, 1)], notEnding 100 [(11, 11)]]])]),
  (["mk"], [(.one, [[ending 10 [(1, 1)], notEnding 100 [(11, 11)]]])]),
  (["bs", "hr", "sr"], [
      (.one, [[ending 10 [(1, 1)], notEnding 100 [(11, 11)]]]),
      (.few, [[ending 10 [(2, 4)], notEnding 100 [(12, 14)]]])]),
  (["ru", "uk"], [
      (.one, [[ending 10 [(1, 1)], notEnding 100 [(11, 11)]]]),
      (.few, [[ending 10 [(2, 4)], notEnding 100 [(12, 14)]]]),
      (.many, [[ending 10 [(0, 0)]], [ending 10 [(5, 9)]], [ending 100 [(11, 14)]]])]),
  (["dsb", "hsb"], [
      (.one, [[ending 100 [(1, 1)]]]),
      (.two, [[ending 100 [(2, 2)]]]),
      (.few, [[ending 100 [(3, 4)]]])]),
  (["sl"], [
      (.one, [[ending 100 [(1, 1)]]]),
      (.two, [[ending 100 [(2, 2)]]]),
      (.few, [[ending 100 [(3, 4)]]])]),
  (["ceb", "fil"], [
      (.one, [[sized [(1, 1), (2, 2), (3, 3)]], [notEnding 10 [(4, 4), (6, 6), (9, 9)]]])]),
  (["lv", "prg"], [
      (.zero, [[ending 10 [(0, 0)]], [ending 100 [(11, 19)]]]),
      (.one, [[ending 10 [(1, 1)], notEnding 100 [(11, 11)]]])]),
  (["blo", "cv", "ksh"], [(.zero, [[sized [(0, 0)]]]), (.one, [[sized [(1, 1)]]])]),
  (["ar"], [
      (.zero, [[sized [(0, 0)]]]),
      (.one, [[sized [(1, 1)]]]),
      (.two, [[sized [(2, 2)]]]),
      (.few, [[ending 100 [(3, 10)]]]),
      (.many, [[ending 100 [(11, 99)]]])]),
  (["cy"], [
      (.zero, [[sized [(0, 0)]]]),
      (.one, [[sized [(1, 1)]]]),
      (.two, [[sized [(2, 2)]]]),
      (.few, [[sized [(3, 3)]]]),
      (.many, [[sized [(6, 6)]]])])]

end Parlance.Plural
