/-! # Functions of query expressions

The table of functions, in the order of their names, with the numbers of arguments that they
take. -/

namespace RuleAtlas.Query

/-- A function: its name, the least number of arguments, and the largest one if there is one. -/
structure FunctionEntry where
  name : String
  least : Nat
  most : Option Nat
  deriving DecidableEq, Repr, Inhabited

def FunctionEntry.accepts (entry : FunctionEntry) (count : Nat) : Bool :=
  entry.least ≤ count && entry.most.all (count ≤ ·)

def functionTable : List FunctionEntry :=
  [⟨"abs", 1, some 1⟩,
   ⟨"absent", 1, some 1⟩,
   ⟨"absent_over_time", 1, some 1⟩,
   ⟨"acos", 1, some 1⟩,
   ⟨"acosh", 1, some 1⟩,
   ⟨"asin", 1, some 1⟩,
   ⟨"asinh", 1, some 1⟩,
   ⟨"atan", 1, some 1⟩,
   ⟨"atanh", 1, some 1⟩,
   ⟨"avg_over_time", 1, some 1⟩,
   ⟨"ceil", 1, some 1⟩,
   ⟨"changes", 1, some 1⟩,
   ⟨"clamp", 3, some 3⟩,
   ⟨"clamp_max", 2, some 2⟩,
   ⟨"clamp_min", 2, some 2⟩,
   ⟨"cos", 1, some 1⟩,
   ⟨"cosh", 1, some 1⟩,
   ⟨"count_over_time", 1, some 1⟩,
   ⟨"day_of_month", 0, some 1⟩,
   ⟨"day_of_week", 0, some 1⟩,
   ⟨"day_of_year", 0, some 1⟩,
   ⟨"days_in_month", 0, some 1⟩,
   ⟨"deg", 1, some 1⟩,
   ⟨"delta", 1, some 1⟩,
   ⟨"deriv", 1, some 1⟩,
   ⟨"double_exponential_smoothing", 3, some 3⟩,
   ⟨"exp", 1, some 1⟩,
   ⟨"floor", 1, some 1⟩,
   ⟨"histogram_avg", 1, some 1⟩,
   ⟨"histogram_count", 1, some 1⟩,
   ⟨"histogram_fraction", 3, some 3⟩,
   ⟨"histogram_quantile", 2, some 2⟩,
   ⟨"histogram_stddev", 1, some 1⟩,
   ⟨"histogram_stdvar", 1, some 1⟩,
   ⟨"histogram_sum", 1, some 1⟩,
   ⟨"holt_winters", 3, some 3⟩,
   ⟨"hour", 0, some 1⟩,
   ⟨"idelta", 1, some 1⟩,
   ⟨"increase", 1, some 1⟩,
   ⟨"info", 1, some 2⟩,
   ⟨"irate", 1, some 1⟩,
   ⟨"label_join", 3, none⟩,
   ⟨"label_replace", 5, some 5⟩,
   ⟨"last_over_time", 1, some 1⟩,
   ⟨"ln", 1, some 1⟩,
   ⟨"log10", 1, some 1⟩,
   ⟨"log2", 1, some 1⟩,
   ⟨"mad_over_time", 1, some 1⟩,
   ⟨"max_over_time", 1, some 1⟩,
   ⟨"min_over_time", 1, some 1⟩,
   ⟨"minute", 0, some 1⟩,
   ⟨"month", 0, some 1⟩,
   ⟨"pi", 0, some 0⟩,
   ⟨"predict_linear", 2, some 2⟩,
   ⟨"present_over_time", 1, some 1⟩,
   ⟨"quantile_over_time", 2, some 2⟩,
   ⟨"rad", 1, some 1⟩,
   ⟨"rate", 1, some 1⟩,
   ⟨"resets", 1, some 1⟩,
   ⟨"round", 1, some 2⟩,
   ⟨"scalar", 1, some 1⟩,
   ⟨"sgn", 1, some 1⟩,
   ⟨"sin", 1, some 1⟩,
   ⟨"sinh", 1, some 1⟩,
   ⟨"sort", 1, some 1⟩,
   ⟨"sort_by_label", 1, none⟩,
   ⟨"sort_by_label_desc", 1, none⟩,
   ⟨"sort_desc", 1, some 1⟩,
   ⟨"sqrt", 1, some 1⟩,
   ⟨"stddev_over_time", 1, some 1⟩,
   ⟨"stdvar_over_time", 1, some 1⟩,
   ⟨"sum_over_time", 1, some 1⟩,
   ⟨"tan", 1, some 1⟩,
   ⟨"tanh", 1, some 1⟩,
   ⟨"time", 0, some 0⟩,
   ⟨"timestamp", 1, some 1⟩,
   ⟨"vector", 1, some 1⟩,
   ⟨"year", 0, some 1⟩]

/-- The function with exactly this name. -/
def function? (name : String) : Option FunctionEntry := functionTable.find? (·.name = name)

end RuleAtlas.Query
