/-!
# Words in order
-/

namespace TextureGraph

/-- Adds a word to a list of words in strictly increasing order; one that is there stays single. -/
def insertWord (word : String) : List String → List String
  | [] => [word]
  | head :: tail =>
      if word < head then word :: head :: tail
      else if word = head then head :: tail
      else head :: insertWord word tail

/-- The distinct words of a list in strictly increasing order of their characters. -/
def sortedWords (words : List String) : List String :=
  words.foldr insertWord []

end TextureGraph
