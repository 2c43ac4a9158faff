import HttpRouter.Expression.Footprint.Basic

namespace HttpRouter.Meter

/-- The words up to each empty word, and those after the last one. Empty words at the front count
    as one. -/
def chunks (words : List (List UInt8)) : List (List (List UInt8)) :=
  match words with
  | [] :: rest => [] :: (rest.dropWhile List.isEmpty).splitOnP List.isEmpty
  | words => words.splitOnP List.isEmpty

/-- Counts the states for words, shared where words begin alike. An empty word ends a chunk, and no
    word after it shares with one before it. The fuel bounds the length of the words. -/
def trie : Nat → List (List UInt8) → Meter Unit
  | 0, _ => return
  | fuel + 1, words => do
    let chunks := chunks words
    chunks.forM fun chunk => do
      let heads := (chunk.filterMap List.head?).eraseDups
      heads.forM fun head => do
        let tails := (chunk.filter (·.head? == some head)).map List.tail
        if tails.any (!·.isEmpty) then trie fuel tails
      match heads with
      | [] => return
      | [_] => plain 0
      | heads => plain (entries heads.length)
    plain (ways ((chunks.filter (!·.isEmpty)).length + (chunks.length - 1)))

/-- Counts the states for words that are alternatives. -/
def countWords (direction : Direction) (words : List (List UInt8)) : Meter Unit := do
  let words := match direction with
    | .forward => words
    | .backward => words.map List.reverse
  plain 0
  trie (words.foldl (fun longest word => max longest word.length) 0) words

end HttpRouter.Meter
