import Parlance.Plural.Rule

namespace Parlance.Plural

/-! # Rules for ranking

The rules of the languages for ranking. A language that is not in the table gives every
number the category `other`.
-/

def ordinalRules : List (List String × Rule) := [
  (["af"], [(.few, [[ending 100 [(2, 19)]]])]),
  (["be"], [(.few, [[ending 10 [(2, 2), (3, 3)], notEnding 100 [(12, 12), (13, 13)]]])]),
  (["uk"], [(.few, [[ending 10 [(3, 3)], notEnding 100 [(13, 13)]]])]),
  (["tk"], [(.few, [[ending 10 [(6, 6), (9, 9)]], [sized [(10, 10)]]])]),
  (["kk"], [
      (.many, [
        [ending 10 [(6, 6)]],
        [ending 10 [(9, 9)]],
        [ending 10 [(0, 0)], notSized [(0, 0)]]])]),
  (["it", "lld", "sc", "vec"], [(.many, [[sized [(11, 11), (8, 8), (80, 80), (800, 800)]]])]),
  (["lij", "scn"], [(.many, [[sized [(11, 11), (8, 8), (80, 89), (800, 899)]]])]),
  (["bg"], [
      (.one, [[ending 10 [(1, 1)], notEnding 100 [(11, 11)]]]),
      (.two, [[ending 10 [(2, 2)], notEnding 100 [(12, 12)]]]),
      (.few, [[ending 10 [(3, 3), (4, 4)], notEnding 100 [(13, 13), (14, 14)]]])]),
  (["mk"], [
      (.one, [[ending 10 [(1, 1)], notEnding 100 [(11, 11)]]]),
      (.two, [[ending 10 [(2, 2)], notEnding 100 [(12, 12)]]]),
      (.many, [[ending 10 [(7, 7), (8, 8)], notEnding 100 [(17, 17), (18, 18)]]])]),
  (["az"], [
      (.one, [
        [ending 10 [(1, 1), (2, 2), (5, 5), (7, 7), (8, 8)]],
        [ending 100 [(20, 20), (50, 50), (70, 70), (80, 80)]]]),
      (.few, [
        [ending 10 [(3, 3), (4, 4)]],
        [ending 1000 [(100, 100), (200, 200), (300, 300), (400, 400), (500, 500), (600, 600),
          (700, 700), (800, 800), (900, 900)]]]),
      (.many, [
        [sized [(0, 0)]],
        [ending 10 [(6, 6)]],
        [ending 100 [(40, 40), (60, 60), (90, 90)]]])]),
  (["ka"], [
      (.one, [[sized [(1, 1)]]]),
      (.many, [[sized [(0, 0)]], [ending 100 [(2, 20), (40, 40), (60, 60), (80, 80)]]])]),
  (["en"], [
      (.one, [[ending 10 [(1, 1)], notEnding 100 [(11, 11)]]]),
      (.two, [[ending 10 [(2, 2)], notEnding 100 [(12, 12)]]]),
      (.few, [[ending 10 [(3, 3)], notEnding 100 [(13, 13)]]])]),
  (["sv"], [(.one, [[ending 10 [(1, 1), (2, 2)], notEnding 100 [(11, 11), (12, 12)]]])]),
  (["es"], [(.one, [[ending 10 [(1, 1), (3, 3)], notEnding 100 [(11, 11)]]])]),
  (["fil", "fr", "ga", "hy", "lo", "ms", "ro", "vi"], [(.one, [[sized [(1, 1)]]])]),
  (["gd"], [
      (.one, [[sized [(1, 1), (11, 11)]]]),
      (.two, [[sized [(2, 2), (12, 12)]]]),
      (.few, [[sized [(3, 3), (13, 13)]]])]),
  (["ca"], [
      (.one, [[sized [(1, 1), (3, 3)]]]),
      (.two, [[sized [(2, 2)]]]),
      (.few, [[sized [(4, 4)]]])]),
  (["hu"], [(.one, [[sized [(1, 1), (5, 5)]]])]),
  (["as", "bn"], [
      (.one, [[sized [(1, 1), (5, 5), (7, 7), (8, 8), (9, 9), (10, 10)]]]),
      (.two, [[sized [(2, 2), (3, 3)]]]),
      (.few, [[sized [(4, 4)]]]),
      (.many, [[sized [(6, 6)]]])]),
  (["or"], [
      (.one, [[sized [(1, 1), (5, 5), (7, 9)]]]),
      (.two, [[sized [(2, 2), (3, 3)]]]),
      (.few, [[sized [(4, 4)]]]),
      (.many, [[sized [(6, 6)]]])]),
  (["ne"], [(.one, [[sized [(1, 4)]]])]),
  (["sq"], [
      (.one, [[sized [(1, 1)]]]),
      (.many, [[ending 10 [(4, 4)], notEnding 100 [(14, 14)]]])]),
  (["kok", "mr"], [
      (.one, [[sized [(1, 1)]]]),
      (.two, [[sized [(2, 2), (3, 3)]]]),
      (.few, [[sized [(4, 4)]]])]),
  (["gu", "hi"], [
      (.one, [[sized [(1, 1)]]]),
      (.two, [[sized [(2, 2), (3, 3)]]]),
      (.few, [[sized [(4, 4)]]]),
      (.many, [[sized [(6, 6)]]])]),
  (["blo"], [
      (.zero, [[sized [(0, 0)]]]),
      (.one, [[sized [(1, 1)]]]),
      (.few, [[sized [(2, 2), (3, 3), (4, 4), (5, 5), (6, 6)]]])]),
  (["cy"], [
      (.zero, [[sized [(0, 0), (7, 7), (8, 8), (9, 9)]]]),
      (.one, [[sized [(1, 1)]]]),
      (.two, [[sized [(2, 2)]]]),
      (.few, [[sized [(3, 3), (4, 4)]]]),
      (.many, [[sized [(5, 5), (6, 6)]]])])]

end Parlance.Plural
