import GatewaySocket.CommandLine.GetoptLong
import GatewaySocket.Database.Requests

/-!
# The options of the daemon

The loop of `main` over its options, up to the check that none is missing. The
counter `neccessary` stands for the seven options without which the daemon does not
start: six of them count each time they are given, `dns` only the first time.
-/

namespace GatewaySocket

open Getopt

/-- What an entry of `long_options` returns: a character, or a value in `long_opt`. -/
inductive Code
  | val (c : Char)
  | flag (longOpt : ℕ)
  deriving DecidableEq

def longOptions : List (LongOption Code) :=
  [⟨"inside", true, .val 'i'⟩,
    ⟨"outside", true, .val 'o'⟩,
    ⟨"db-user", true, .val 'u'⟩,
    ⟨"db-pass", true, .val 'p'⟩,
    ⟨"db-name", true, .val 'n'⟩,
    ⟨"timeout", true, .val 't'⟩,
    ⟨"daemon", false, .val 'd'⟩,
    ⟨"gateway", true, .flag 1⟩,
    ⟨"subnet", true, .flag 2⟩,
    ⟨"dns", true, .flag 3⟩]

def optionTable : Table Code where
  optstring := "u:p:i:o:n:t:d"
  ofChar := .val
  longOptions := longOptions

/-- The first `n` bytes of the text, with zeros behind a shorter one. -/
def strncpy (n : ℕ) (text : String) : Vector UInt8 n :=
  Vector.ofFn fun i => text.toUTF8.data.getD i 0

/-- The number at the start of a text, as `strtol` reads it, in an `int`. -/
def atoi (text : String) : Int32 :=
  let digits (cs : List Char) : ℤ :=
    (cs.takeWhile Char.isDigit).foldl (fun n c => 10 * n + (c.toNat - '0'.toNat)) 0
  let number := match text.toList.dropWhile fun c => c = ' ' ∨ 9 ≤ c.toNat ∧ c.toNat ≤ 13 with
    | '-' :: cs => -digits cs
    | '+' :: cs => digits cs
    | cs => digits cs
  Int32.ofInt (max (-2 ^ 63) (min number (2 ^ 63 - 1)))

/-- `IFNAMSIZ` -/
abbrev ifNamSiz : ℕ := 16

/-- The variables of `main`; `none` is an array that is not initialised. -/
structure Main where
  daemonize : Bool := false
  neccessary : ℤ := 7
  timeout : Int32 := 10000
  inDev : Option (Vector UInt8 ifNamSiz) := none
  outDev : Option (Vector UInt8 ifNamSiz) := none
  dbUser : Option (Vector UInt8 255) := none
  dbPass : Option (Vector UInt8 255) := none
  dbName : Vector UInt8 255 := strncpy 255 "gateway"
  gatewayIP : InAddr := Vector.replicate 4 0
  subnetMask : InAddr := Vector.replicate 4 0
  dnsList : List InAddr := []

namespace Main

/-- One round of the loop of `main`, unless it ends in `help`. -/
def read (m : Main) (code : Code) (optarg : String) : Option Main :=
  match code with
  | .flag 1 =>
    some { m with neccessary := m.neccessary - 1, gatewayIP := inetAddr optarg }
  | .flag 2 =>
    some { m with neccessary := m.neccessary - 1, subnetMask := inetAddr optarg }
  | .flag 3 =>
    some { m with
      neccessary := if m.dnsList.length = 0 then m.neccessary - 1 else m.neccessary
      dnsList := m.dnsList ++ [inetAddr optarg] }
  | .flag _ => some m
  | .val 'i' =>
    some { m with neccessary := m.neccessary - 1, inDev := some (strncpy ifNamSiz optarg) }
  | .val 'o' =>
    some { m with neccessary := m.neccessary - 1, outDev := some (strncpy ifNamSiz optarg) }
  | .val 'u' =>
    some { m with neccessary := m.neccessary - 1, dbUser := some (strncpy 255 optarg) }
  | .val 'p' =>
    some { m with neccessary := m.neccessary - 1, dbPass := some (strncpy 255 optarg) }
  | .val 'd' => some { m with daemonize := true }
  | .val 't' =>
    some { m with timeout := if atoi optarg < 0 then 10000 else atoi optarg }
  | .val 'n' => some { m with dbName := strncpy 255 optarg }
  | .val _ => none

/-- The loop of `main` over the options, unless it ends in `help`. Only an option
without argument has a null `optarg`, which is not used then. -/
def readAll (m : Main) : List (Getopt.Call Code) → Option Main
  | [] => some m
  | .unknown :: _ => none
  | .opt code optarg :: calls =>
    match m.read code (optarg.getD "") with
    | none => none
    | some m => readAll m calls

end Main

/-- How `main` goes on after its options. -/
inductive Startup
  | help
  | missing (neccessary : ℤ)
  | proceeds (m : Main)

/-- `main`, up to the check of its options, on the words behind the program's name. -/
def startup (posixlyCorrect : Bool) (args : List String) : Startup :=
  match Main.readAll {} (optionTable.getoptLong posixlyCorrect args) with
  | none => .help
  | some m => if m.neccessary ≠ 0 then .missing m.neccessary else .proceeds m

/-- What the database is made with. -/
def Main.config (m : Main) : Config where
  gatewayIP := m.gatewayIP
  subnetMask := m.subnetMask
  dnsList := m.dnsList
  timeout := m.timeout.toUInt32

/-! ## What the options set -/

/-- The codes of the options that count each time. -/
def counted : List Code := [.val 'i', .val 'o', .val 'u', .val 'p', .flag 1, .flag 2]

abbrev dns : Code := .flag 3

/-- The arguments with which an option is given, in order. -/
def given (code : Code) (calls : List (Getopt.Call Code)) : List String :=
  calls.filterMap fun
    | .opt val optarg => if val = code then some (optarg.getD "") else none
    | .unknown => none

variable {code val : Code} {calls before : List (Getopt.Call Code)} {m : Main} {optarg : Option String}

@[simp] theorem given_nil (code : Code) : given code [] = [] := rfl

@[simp] theorem given_concat (code val : Code) (calls : List (Getopt.Call Code))
    (optarg : Option String) :
    given code (calls ++ [.opt val optarg]) =
      given code calls ++ if val = code then [optarg.getD ""] else [] := by
  rw [given, List.filterMap_append]
  by_cases hval : val = code <;> simp [given, hval]

/-- How often the options count. -/
def paid (calls : List (Getopt.Call Code)) : ℕ :=
  (counted.map fun code => (given code calls).length).sum + min 1 (given dns calls).length

theorem paid_concat (code : Code) (calls : List (Getopt.Call Code)) (optarg : Option String) :
    paid (calls ++ [.opt code optarg]) =
      paid calls + if code ∈ counted ∨ code = dns ∧ given dns calls = [] then 1 else 0 := by
  by_cases hdns : code = dns
  · subst hdns
    cases hgiven : given dns calls with
    | nil => simp [paid, counted, hgiven]
    | cons text texts =>
        simp [paid, counted, hgiven]
  · by_cases hcode : code ∈ counted
    · simp only [counted, List.mem_cons, List.not_mem_nil, or_false] at hcode
      rcases hcode with rfl | rfl | rfl | rfl | rfl | rfl <;> simp [paid, counted] <;> omega
    · have hnot := hcode
      simp only [counted, List.mem_cons, List.not_mem_nil, or_false, not_or] at hnot
      obtain ⟨hin, hout, huser, hpass, hgateway, hsubnet⟩ := hnot
      simp [paid, counted, hin, hout, huser, hpass, hgateway, hsubnet, hdns]

/-- After the loop each variable holds the last of the arguments that it is set to,
or what it was initialised with. -/
structure Main.Holds (m : Main) (calls : List (Getopt.Call Code)) : Prop where
  daemonize : m.daemonize = !(given (.val 'd') calls).isEmpty
  neccessary : m.neccessary = 7 - paid calls
  timeout : m.timeout = ((given (.val 't') calls).getLast?.map fun text =>
    if atoi text < 0 then 10000 else atoi text).getD 10000
  inDev : m.inDev = (given (.val 'i') calls).getLast?.map (strncpy ifNamSiz)
  outDev : m.outDev = (given (.val 'o') calls).getLast?.map (strncpy ifNamSiz)
  dbUser : m.dbUser = (given (.val 'u') calls).getLast?.map (strncpy 255)
  dbPass : m.dbPass = (given (.val 'p') calls).getLast?.map (strncpy 255)
  dbName : m.dbName = strncpy 255 ((given (.val 'n') calls).getLast?.getD "gateway")
  gatewayIP : m.gatewayIP =
    ((given (.flag 1) calls).getLast?.map inetAddr).getD (Vector.replicate 4 0)
  subnetMask : m.subnetMask =
    ((given (.flag 2) calls).getLast?.map inetAddr).getD (Vector.replicate 4 0)
  dnsList : m.dnsList = (given dns calls).map inetAddr

theorem Main.holds_nil : Main.Holds {} [] := by
  constructor <;> rfl

theorem code_of_offers {hasArg : Bool} (h : optionTable.Offers code hasArg) :
    code ∈ longOptions.map LongOption.val := by
  cases h with
  | long o ho => exact List.mem_map_of_mem ho
  | short c hasArg hc =>
      obtain ⟨hmem, hcolon⟩ := Table.mem_of_short hc
      have hchars : optionTable.optstring.toList =
          ['u', ':', 'p', ':', 'i', ':', 'o', ':', 'n', ':', 't', ':', 'd'] := by
        decide +kernel
      rw [hchars] at hmem
      simp only [List.mem_cons, List.not_mem_nil, or_false, hcolon, false_or] at hmem
      rcases hmem with rfl | rfl | rfl | rfl | rfl | rfl | rfl <;> decide

theorem Main.Holds.read (h : m.Holds calls) (hcode : code ∈ longOptions.map LongOption.val)
    (optarg : Option String) :
    ∃ m', m.read code (optarg.getD "") = some m' ∧ m'.Holds (calls ++ [.opt code optarg]) := by
  simp only [longOptions, List.map_cons, List.map_nil, List.mem_cons, List.not_mem_nil,
    or_false] at hcode
  rcases hcode with rfl | rfl | rfl | rfl | rfl | rfl | rfl | rfl | rfl | rfl
  all_goals
    refine ⟨_, rfl, ?_⟩
    constructor <;>
      simp [h.daemonize, h.neccessary, h.timeout, h.inDev, h.outDev, h.dbUser, h.dbPass,
        h.dbName, h.gatewayIP, h.subnetMask, h.dnsList, paid_concat, counted, sub_sub]
  -- only the counter of `dns` depends on what was given before
  by_cases hdns : given dns calls = [] <;> simp [hdns]

/-- The loop ends in `help` for an option that is not understood, and for no other
reason. -/
theorem Main.Holds.readAll (h : m.Holds before)
    (hcalls : ∀ call ∈ calls, optionTable.Fits call) (hknown : .unknown ∉ calls) :
    ∃ m', m.readAll calls = some m' ∧ m'.Holds (before ++ calls) := by
  induction calls generalizing m before with
  | nil => exact ⟨m, rfl, by rwa [List.append_nil]⟩
  | cons call calls ih =>
      obtain ⟨hcall, hrest⟩ := List.forall_mem_cons.mp hcalls
      cases call with
      | unknown => exact absurd List.mem_cons_self hknown
      | opt code optarg =>
          obtain ⟨m₁, hread, hholds⟩ := h.read (code_of_offers hcall) optarg
          obtain ⟨m', hreadAll, hholds'⟩ :=
            ih hholds hrest fun hmem => hknown (List.mem_cons_of_mem _ hmem)
          rw [List.append_assoc] at hholds'
          refine ⟨m', ?_, hholds'⟩
          rw [Main.readAll, hread]
          exact hreadAll

end GatewaySocket
