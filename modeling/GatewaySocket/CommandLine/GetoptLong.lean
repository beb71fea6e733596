import Mathlib.Data.List.Basic
import Mathlib.Tactic.Common

/-!
# Options of a command line

`getopt_long` of the C library, for options that take no argument and options that
require one. `getoptLong` gives what the calls return that a program makes one after
the other until there is no option left. Words that are not options are passed over
wherever they stand, unless `POSIXLY_CORRECT` is set, and the word `--` ends the
options. A long option may be abbreviated as long as it is not ambiguous.

`Spelling` says in which ways options can be written down; a line is read as the
options that it spells.
-/

namespace Getopt

/-- An option with a long name, and what is returned for it. -/
structure LongOption (ν : Type*) where
  name : String
  hasArg : Bool
  val : ν

/-- The options of a program. The characters of `optstring` that require an argument
have a colon behind them, and `ofChar` is what is returned for them. -/
structure Table (ν : Type*) where
  optstring : String
  ofChar : Char → ν
  longOptions : List (LongOption ν)

/-- What a call returns: an option with its argument, or `?`. -/
inductive Call (ν : Type*)
  | opt (val : ν) (optarg : Option String)
  | unknown
  deriving DecidableEq

/-- What a word of the command line is. The option at its end may wait for the next
word as its argument. -/
inductive Word (ν : Type*)
  | operand
  | endOfOptions
  | options (calls : List (Call ν)) (waiting : Option ν)
  deriving DecidableEq

/-- Whether the character requires an argument, if it is in the option string. -/
def hasArg (c : Char) : List Char → Option Bool
  | [] => none
  | o :: rest => if o = c then some (rest.head? = some ':') else hasArg c rest

theorem mem_of_hasArg {c : Char} {cs : List Char} {required : Bool}
    (h : hasArg c cs = some required) : c ∈ cs := by
  induction cs with
  | nil => contradiction
  | cons o rest ih =>
      rw [hasArg] at h
      split at h
      · next ho => exact ho ▸ List.mem_cons_self
      · exact List.mem_cons_of_mem o (ih h)

namespace Table

universe u

variable {ν : Type u} (T : Table ν)

def short (c : Char) : Option Bool :=
  if c = ':' ∨ c = ';' then none else hasArg c T.optstring.toList

/-- The short options in a word behind its dash. -/
def readShort : List Char → List (Call ν) × Option ν
  | [] => ([], none)
  | c :: cs =>
    match T.short c with
    | none => (.unknown :: (readShort cs).1, (readShort cs).2)
    | some false => (.opt (T.ofChar c) none :: (readShort cs).1, (readShort cs).2)
    | some true =>
      if cs = [] then ([], some (T.ofChar c))
      else ([.opt (T.ofChar c) (some (String.ofList cs))], none)

variable [DecidableEq ν]

/-- The long option of the name, or else the one that the name abbreviates. -/
def long (name : List Char) : Option (LongOption ν) :=
  match T.longOptions.find? fun o => o.name.toList = name with
  | some o => some o
  | none =>
    match T.longOptions.filter fun o => name.isPrefixOf o.name.toList with
    | [] => none
    | o :: os => if os.all fun p => p.hasArg = o.hasArg ∧ p.val = o.val then some o else none

/-- The long option in a word behind its dashes. -/
def readLong (body : List Char) : List (Call ν) × Option ν :=
  match T.long (body.takeWhile (· ≠ '=')) with
  | none => ([.unknown], none)
  | some o =>
    match body.dropWhile (· ≠ '='), o.hasArg with
    | [], false => ([.opt o.val none], none)
    | [], true => ([], some o.val)
    | _ :: _, false => ([.unknown], none)
    | _ :: optarg, true => ([.opt o.val (some (String.ofList optarg))], none)

def readWord (word : String) : Word ν :=
  match word.toList with
  | ['-', '-'] => .endOfOptions
  | '-' :: '-' :: body => .options (T.readLong body).1 (T.readLong body).2
  | '-' :: c :: cs => .options (T.readShort (c :: cs)).1 (T.readShort (c :: cs)).2
  | _ => .operand

/-- What the calls return for a command line. -/
def getoptLong (posixlyCorrect : Bool) : List String → List (Call ν)
  | [] => []
  | word :: words =>
    match T.readWord word with
    | .operand => if posixlyCorrect then [] else getoptLong posixlyCorrect words
    | .endOfOptions => []
    | .options calls none => calls ++ getoptLong posixlyCorrect words
    | .options calls (some val) =>
      match words with
      | [] => calls ++ [.unknown]
      | optarg :: words => calls ++ .opt val (some optarg) :: getoptLong posixlyCorrect words

/-! ## What can be returned -/

/-- The table has an option that returns `val`, with an argument or without one. -/
inductive Offers : ν → Bool → Prop
  | short (c : Char) (hasArg : Bool) (h : T.short c = some hasArg) : Offers (T.ofChar c) hasArg
  | long (o : LongOption ν) (h : o ∈ T.longOptions) : Offers o.val o.hasArg

/-- An option with an argument exactly if the table says so. -/
def Fits : Call ν → Prop
  | .opt val optarg => T.Offers val optarg.isSome
  | .unknown => True

variable {T} {posixlyCorrect : Bool} {name cs : List Char} {o : LongOption ν} {val : ν}

omit [DecidableEq ν] in
theorem mem_of_short {c : Char} {hasArg : Bool} (h : T.short c = some hasArg) :
    c ∈ T.optstring.toList ∧ c ≠ ':' := by
  rw [short] at h
  split at h
  · contradiction
  · next hcolon => exact ⟨mem_of_hasArg h, fun hc => hcolon (.inl hc)⟩

theorem mem_of_long (h : T.long name = some o) : o ∈ T.longOptions := by
  unfold long at h
  split at h
  · next hfind =>
      obtain rfl := Option.some.inj h
      exact List.mem_of_find?_eq_some hfind
  · split at h
    · contradiction
    · next p os hfilter =>
        split at h
        · obtain rfl := Option.some.inj h
          exact (List.mem_filter.mp (hfilter ▸ List.mem_cons_self)).1
        · contradiction

omit [DecidableEq ν] in
theorem readShort_fits (cs : List Char) :
    (∀ call ∈ (T.readShort cs).1, T.Fits call) ∧
      ∀ val, (T.readShort cs).2 = some val → T.Offers val true := by
  induction cs with
  | nil => exact ⟨nofun, nofun⟩
  | cons c cs ih =>
      rw [readShort]
      cases hshort : T.short c with
      | none => exact ⟨List.forall_mem_cons.mpr ⟨trivial, ih.1⟩, ih.2⟩
      | some hasArg =>
          cases hasArg with
          | false => exact ⟨List.forall_mem_cons.mpr ⟨.short c false hshort, ih.1⟩, ih.2⟩
          | true =>
              by_cases hcs : cs = []
              · simp only [if_pos hcs]
                refine ⟨nofun, fun val hval => ?_⟩
                obtain rfl := Option.some.inj hval
                exact .short c true hshort
              · simp only [if_neg hcs]
                exact ⟨List.forall_mem_singleton.mpr (.short c true hshort), nofun⟩

theorem readLong_fits (body : List Char) :
    (∀ call ∈ (T.readLong body).1, T.Fits call) ∧
      ∀ val, (T.readLong body).2 = some val → T.Offers val true := by
  unfold readLong
  split
  · exact ⟨List.forall_mem_singleton.mpr trivial, nofun⟩
  · next o hlong =>
      have hoffers : T.Offers o.val o.hasArg := .long o (mem_of_long hlong)
      split
      · next harg =>
          rw [harg] at hoffers
          exact ⟨List.forall_mem_singleton.mpr hoffers, nofun⟩
      · next harg =>
          rw [harg] at hoffers
          refine ⟨nofun, fun val hval => ?_⟩
          obtain rfl := Option.some.inj hval
          exact hoffers
      · exact ⟨List.forall_mem_singleton.mpr trivial, nofun⟩
      · next harg =>
          rw [harg] at hoffers
          exact ⟨List.forall_mem_singleton.mpr hoffers, nofun⟩

theorem readWord_fits {word : String} {calls : List (Call ν)} {waiting : Option ν}
    (h : T.readWord word = .options calls waiting) :
    (∀ call ∈ calls, T.Fits call) ∧ ∀ val, waiting = some val → T.Offers val true := by
  unfold readWord at h
  split at h
  · contradiction
  · obtain ⟨rfl, rfl⟩ := Word.options.inj h
    exact readLong_fits _
  · obtain ⟨rfl, rfl⟩ := Word.options.inj h
    exact readShort_fits _
  · contradiction

/-- Only options of the table are returned, those with an argument that require one. -/
theorem getoptLong_fits (args : List String) :
    ∀ call ∈ T.getoptLong posixlyCorrect args, T.Fits call := by
  fun_induction getoptLong with
  | case1 => exact nofun
  | case2 word words hword hposix => exact nofun
  | case3 word words hword hposix ih => exact ih
  | case4 word words hword => exact nofun
  | case5 word words calls hword ih =>
      exact List.forall_mem_append.mpr ⟨(readWord_fits hword).1, ih⟩
  | case6 word calls val hword =>
      exact List.forall_mem_append.mpr
        ⟨(readWord_fits hword).1, List.forall_mem_singleton.mpr trivial⟩
  | case7 word calls val hword optarg words ih =>
      exact List.forall_mem_append.mpr
        ⟨(readWord_fits hword).1, List.forall_mem_cons.mpr ⟨(readWord_fits hword).2 val rfl, ih⟩⟩

/-! ## Ways to write options down -/

variable (T)

/-- The words of one or more options with what is returned for them: short options
without argument in one word, at the end of which one with an argument may stand, or
a long option. -/
inductive Spells : List String → List (Call ν) → Prop
  | flags (cs : List Char) (h : ∀ c ∈ cs, T.short c = some false) (hne : cs ≠ []) :
      Spells [String.ofList ('-' :: cs)] (cs.map fun c => .opt (T.ofChar c) none)
  | joined (cs : List Char) (h : ∀ c ∈ cs, T.short c = some false) (c : Char)
      (hc : T.short c = some true) (optarg : List Char) (hne : optarg ≠ []) :
      Spells [String.ofList ('-' :: (cs ++ c :: optarg))]
        ((cs.map fun c => .opt (T.ofChar c) none) ++
          [.opt (T.ofChar c) (some (String.ofList optarg))])
  | separate (cs : List Char) (h : ∀ c ∈ cs, T.short c = some false) (c : Char)
      (hc : T.short c = some true) (optarg : String) :
      Spells [String.ofList ('-' :: (cs ++ [c])), optarg]
        ((cs.map fun c => .opt (T.ofChar c) none) ++ [.opt (T.ofChar c) (some optarg)])
  | longFlag (name : List Char) (o : LongOption ν) (hname : '=' ∉ name) (hne : name ≠ [])
      (ho : T.long name = some o) (harg : o.hasArg = false) :
      Spells [String.ofList ('-' :: '-' :: name)] [.opt o.val none]
  | longJoined (name : List Char) (o : LongOption ν) (hname : '=' ∉ name)
      (ho : T.long name = some o) (harg : o.hasArg = true) (optarg : List Char) :
      Spells [String.ofList ('-' :: '-' :: (name ++ '=' :: optarg))]
        [.opt o.val (some (String.ofList optarg))]
  | longSeparate (name : List Char) (o : LongOption ν) (hname : '=' ∉ name) (hne : name ≠ [])
      (ho : T.long name = some o) (harg : o.hasArg = true) (optarg : String) :
      Spells [String.ofList ('-' :: '-' :: name), optarg] [.opt o.val (some optarg)]

/-- A command line with the options that it spells, between words of other kinds. -/
inductive Spelling : List String → List (Call ν) → Prop
  | nil : Spelling [] []
  | endOfOptions (words : List String) : Spelling ("--" :: words) []
  | operand (word : String) (hword : T.readWord word = .operand) {words : List String}
      {calls : List (Call ν)} (h : Spelling words calls) : Spelling (word :: words) calls
  | options {spelled words : List String} {given calls : List (Call ν)}
      (hspelled : T.Spells spelled given) (h : Spelling words calls) :
      Spelling (spelled ++ words) (given ++ calls)

variable {T}

omit [DecidableEq ν] in
/-- Options without argument are read one by one. -/
theorem readShort_append (hcs : ∀ c ∈ cs, T.short c = some false) (rest : List Char) :
    T.readShort (cs ++ rest) =
      ((cs.map fun c => .opt (T.ofChar c) none) ++ (T.readShort rest).1, (T.readShort rest).2) := by
  induction cs with
  | nil => rfl
  | cons c cs ih =>
      obtain ⟨hc, hcs⟩ := List.forall_mem_cons.mp hcs
      rw [List.cons_append, readShort, hc, ih hcs]
      rfl

/-- A word of short options, the first of which is no dash. -/
theorem readWord_short {c : Char} {hasArg : Bool} (hdash : T.short '-' = none)
    (hc : T.short c = some hasArg) :
    T.readWord (String.ofList ('-' :: c :: cs)) =
      .options (T.readShort (c :: cs)).1 (T.readShort (c :: cs)).2 := by
  have hne : c ≠ '-' := by
    rintro rfl
    rw [hdash] at hc
    contradiction
  rw [readWord, String.toList_ofList]
  split
  · next h => exact absurd (List.cons.inj (List.cons.inj h).2).1 hne
  · next h => exact absurd (List.cons.inj (List.cons.inj h).2).1 hne
  · next h =>
      obtain ⟨rfl, rfl⟩ := List.cons.inj (List.cons.inj h).2
      rfl
  · next h => exact absurd rfl (h c cs)

theorem readWord_append {c : Char} {hasArg : Bool} (hdash : T.short '-' = none)
    (hcs : ∀ c ∈ cs, T.short c = some false) (hc : T.short c = some hasArg) (rest : List Char) :
    T.readWord (String.ofList ('-' :: (cs ++ c :: rest))) =
      .options ((cs.map fun c => .opt (T.ofChar c) none) ++ (T.readShort (c :: rest)).1)
        (T.readShort (c :: rest)).2 := by
  have hread := readShort_append hcs (c :: rest)
  cases cs with
  | nil => exact readWord_short hdash hc
  | cons d cs =>
      rw [List.cons_append] at hread ⊢
      rw [readWord_short hdash (hcs d List.mem_cons_self), hread]

theorem readWord_long (hne : cs ≠ []) :
    T.readWord (String.ofList ('-' :: '-' :: cs)) =
      .options (T.readLong cs).1 (T.readLong cs).2 := by
  rw [readWord, String.toList_ofList]
  cases cs with
  | nil => contradiction
  | cons c cs => rfl

/-- The name of a long option ends at the first `=`. -/
theorem split_name (hname : '=' ∉ name) (rest : List Char) :
    (name ++ rest).takeWhile (· ≠ '=') = name ++ rest.takeWhile (· ≠ '=') ∧
      (name ++ rest).dropWhile (· ≠ '=') = rest.dropWhile (· ≠ '=') := by
  have hpass : ∀ c ∈ name, decide (c ≠ '=') = true := by
    intro c hc
    rw [decide_eq_true_iff]
    rintro rfl
    exact hname hc
  exact ⟨List.takeWhile_append_of_pos hpass, List.dropWhile_append_of_pos hpass⟩

theorem readLong_of_long (hname : '=' ∉ name) (ho : T.long name = some o) :
    T.readLong name = if o.hasArg then ([], some o.val) else ([.opt o.val none], none) := by
  obtain ⟨htake, hdrop⟩ := split_name hname []
  rw [List.append_nil] at htake hdrop
  rw [readLong, htake, hdrop]
  simp only [List.takeWhile_nil, List.append_nil, List.dropWhile_nil, ho]
  cases o.hasArg <;> rfl

theorem readLong_joined (hname : '=' ∉ name) (ho : T.long name = some o) (harg : o.hasArg = true)
    (optarg : List Char) :
    T.readLong (name ++ '=' :: optarg) = ([.opt o.val (some (String.ofList optarg))], none) := by
  obtain ⟨htake, hdrop⟩ := split_name hname ('=' :: optarg)
  rw [readLong, htake, hdrop]
  simp [ho, harg]

variable {words spelled : List String} {given calls : List (Call ν)}

theorem getoptLong_options {word : String} (h : T.readWord word = .options calls none) :
    T.getoptLong posixlyCorrect (word :: words) = calls ++ T.getoptLong posixlyCorrect words := by
  rw [getoptLong, h]

theorem getoptLong_waiting {word optarg : String}
    (h : T.readWord word = .options calls (some val)) :
    T.getoptLong posixlyCorrect (word :: optarg :: words) =
      calls ++ .opt val (some optarg) :: T.getoptLong posixlyCorrect words := by
  rw [getoptLong, h]

theorem getoptLong_of_spells (hdash : T.short '-' = none) (h : T.Spells spelled given)
    (words : List String) :
    T.getoptLong posixlyCorrect (spelled ++ words) =
      given ++ T.getoptLong posixlyCorrect words := by
  cases h with
  | flags cs hcs hne =>
      obtain ⟨c, cs, rfl⟩ := List.exists_cons_of_ne_nil hne
      have hread := readShort_append hcs []
      rw [List.append_nil] at hread
      apply getoptLong_options
      rw [readWord_short hdash (hcs c List.mem_cons_self), hread]
      exact congrArg (Word.options · none) (List.append_nil _)
  | joined cs hcs c hc optarg hne =>
      apply getoptLong_options
      rw [readWord_append hdash hcs hc, readShort, hc]
      simp only [if_neg hne]
  | separate cs hcs c hc optarg =>
      rw [List.append_assoc]
      apply getoptLong_waiting
      rw [readWord_append hdash hcs hc, readShort, hc]
      simp
  | longFlag name o hname hne ho harg =>
      apply getoptLong_options
      rw [readWord_long hne, readLong_of_long hname ho, harg]
      rfl
  | longJoined name o hname ho harg optarg =>
      apply getoptLong_options
      rw [readWord_long (List.append_ne_nil_of_right_ne_nil name (List.cons_ne_nil _ _)),
        readLong_joined hname ho harg]
  | longSeparate name o hname hne ho harg optarg =>
      have hword : T.readWord (String.ofList ('-' :: '-' :: name)) = .options [] (some o.val) := by
        rw [readWord_long hne, readLong_of_long hname ho, harg]
        rfl
      exact getoptLong_waiting hword

/-- **A command line is read as the options that it spells.** -/
theorem getoptLong_of_spelling (hdash : T.short '-' = none) (h : T.Spelling words calls) :
    T.getoptLong false words = calls := by
  induction h with
  | nil => rfl
  | endOfOptions words => rfl
  | operand word hword h ih => rw [getoptLong, hword]; exact ih
  | options hspelled h ih => rw [getoptLong_of_spells hdash hspelled, ih]

omit [DecidableEq ν] in
theorem ne_unknown_of_mem_flags {call : Call ν}
    (h : call ∈ cs.map fun c => Call.opt (T.ofChar c) none) : call ≠ .unknown := by
  obtain ⟨c, -, rfl⟩ := List.mem_map.mp h
  exact nofun

theorem unknown_notMem_of_spells (h : T.Spells spelled given) : .unknown ∉ given := by
  intro hmem
  cases h with
  | flags => exact ne_unknown_of_mem_flags hmem rfl
  | joined | separate =>
      rcases List.mem_append.mp hmem with hmem | hmem
      · exact ne_unknown_of_mem_flags hmem rfl
      · cases List.mem_singleton.mp hmem
  | longFlag | longJoined | longSeparate => cases List.mem_singleton.mp hmem

theorem unknown_notMem_of_spelling (h : T.Spelling words calls) : .unknown ∉ calls := by
  induction h with
  | nil | endOfOptions => exact List.not_mem_nil
  | operand word hword h ih => exact ih
  | options hspelled h ih =>
      exact fun hmem => (List.mem_append.mp hmem).elim (unknown_notMem_of_spells hspelled) ih

end Table

end Getopt
