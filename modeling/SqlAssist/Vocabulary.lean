import SqlAssist.Text.Case

/-!
# Vocabularies

A `Vocabulary` is a list of words in upper case, sorted by code points and without repetition. The
editor has two of them: the keywords and the functions of the query language.
-/
namespace SqlAssist

/-- Words in upper case, sorted and without repetition. -/
structure Vocabulary where
  words : List String
  deriving DecidableEq, Repr

namespace Vocabulary

/-- The vocabulary of the given words, in any case and any order. -/
def ofWords (words : List String) : Vocabulary :=
  ⟨((words.map Text.upperName).eraseDups).mergeSort (fun a b => decide (a ≤ b))⟩

theorem mem_ofWords_iff {words : List String} {word : String} :
    word ∈ (ofWords words).words ↔ ∃ spelling ∈ words, Text.upperName spelling = word := by
  rw [ofWords, List.mem_mergeSort, List.mem_eraseDups, List.mem_map]

/-- Whether the word is in the vocabulary, in any case. -/
def contains (vocabulary : Vocabulary) (word : String) : Bool :=
  vocabulary.words.contains (Text.upperName word)

/-- The words that start with the given characters, in any case. -/
def startingWith (vocabulary : Vocabulary) (typed : List Char) : List String :=
  vocabulary.words.filter fun word => (Text.upper typed).isPrefixOf word.toList

/-- The keywords that the editor knows. -/
def keywords : Vocabulary := ofWords
  ["ADD", "ALL", "ALTER", "AND", "AS", "ASC", "BETWEEN", "BY", "CASE", "CAST", "CREATE", "CROSS",
   "CUBE", "CURRENT", "DELETE", "DESC", "DISTINCT", "DROP", "ELSE", "END", "EXCEPT", "EXISTS",
   "EXTRACT", "FALSE", "FETCH", "FILTER", "FIRST", "FOLLOWING", "FOR", "FROM", "FULL", "GROUP",
   "GROUPING", "HAVING", "IF", "IN", "INNER", "INSERT", "INTERSECT", "INTERVAL", "INTO", "IS",
   "JOIN", "LATERAL", "LEFT", "LIKE", "LIMIT", "NATURAL", "NEXT", "NOT", "NULL", "OFFSET", "ON",
   "ONLY", "OR", "ORDER", "OUTER", "OVER", "PARTITION", "PERCENT", "PRECEDING", "RANGE",
   "RECURSIVE", "RIGHT", "ROLLUP", "ROW", "ROWS", "SELECT", "SET", "SETS", "TABLE", "THEN", "TOP",
   "TRUE", "UNBOUNDED", "UNION", "UPDATE", "USING", "VALUES", "WHEN", "WHERE", "WINDOW", "WITH"]

/-- The functions that the editor knows. -/
def functions : Vocabulary := ofWords
  ["ABS", "ARRAY_AGG", "AVG", "CEIL", "COALESCE", "CONCAT", "COUNT", "DATE", "DATE_TRUNC",
   "DENSE_RANK", "FIRST_VALUE", "FLOOR", "IIF", "IFNULL", "JSON_EXTRACT", "JSON_VALUE", "LAG",
   "LAST_VALUE", "LEAD", "LENGTH", "LOWER", "MAX", "MIN", "NOW", "NTH_VALUE", "NTILE", "NULLIF",
   "RANK", "REPLACE", "ROUND", "ROW_NUMBER", "STRING_AGG", "SUBSTRING", "SUM", "TIME", "TIMESTAMP",
   "TO_CHAR", "TO_DATE", "TO_TIMESTAMP", "TRIM", "UPPER"]

end Vocabulary

end SqlAssist
