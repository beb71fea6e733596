import GatewaySocket.CommandLine.Main

/-!
# Options that have to be given

The counter of `main` does not see which options it counts. An option that is given
again pays for one that is missing, and where none is missing it takes the counter
past zero. So the check says what it should if the options that count each time are
given once, or if those that are missing are not as many as the repetitions.
-/

namespace GatewaySocket

open Getopt

/-- The codes of the options that have to be given. -/
def mandatory : List Code := counted ++ [dns]

/-- How many of the options that have to be given are not. -/
def missing (calls : List (Getopt.Call Code)) : ℕ :=
  mandatory.countP fun code => given code calls = []

/-- How often an option that counts each time is given again. -/
def surplus (calls : List (Getopt.Call Code)) : ℕ :=
  (counted.map fun code => (given code calls).length - 1).sum

/-- Whatever `main` goes on with was set by an option. -/
structure Main.Initialised (m : Main) (calls : List (Getopt.Call Code)) : Prop where
  inDev : m.inDev ≠ none
  outDev : m.outDev ≠ none
  dbUser : m.dbUser ≠ none
  dbPass : m.dbPass ≠ none
  gatewayIP : m.gatewayIP ∈ (given (.flag 1) calls).map inetAddr
  subnetMask : m.subnetMask ∈ (given (.flag 2) calls).map inetAddr
  dnsList : m.dnsList ≠ []

/-- The check lets the command line pass if nothing is missing, and only then. -/
structure Required (posixlyCorrect : Bool) (args : List String) : Prop where
  proceeds_iff : (∃ m, startup posixlyCorrect args = .proceeds m) ↔
    ∀ code ∈ mandatory, given code (optionTable.getoptLong posixlyCorrect args) ≠ []
  initialised : ∀ m, startup posixlyCorrect args = .proceeds m →
    m.Initialised (optionTable.getoptLong posixlyCorrect args)

variable {calls : List (Getopt.Call Code)} {m : Main} {posixlyCorrect : Bool} {args : List String}

theorem missing_eq_zero_iff : missing calls = 0 ↔ ∀ code ∈ mandatory, given code calls ≠ [] := by
  simp only [missing, List.countP_eq_zero, decide_eq_true_eq, ne_eq]

/-- Each option of a list is given at least once or missing. -/
theorem sum_length_add_countP (codes : List Code) (calls : List (Getopt.Call Code)) :
    (codes.map fun code => (given code calls).length).sum +
        codes.countP (fun code => given code calls = []) =
      codes.length + (codes.map fun code => (given code calls).length - 1).sum := by
  induction codes with
  | nil => rfl
  | cons code codes ih =>
      rw [List.map_cons, List.sum_cons, List.map_cons, List.sum_cons, List.countP_cons,
        List.length_cons]
      cases hgiven : given code calls with
      | nil =>
          simp only [List.length_nil, decide_true, if_true]
          omega
      | cons text texts =>
          simp only [List.length_cons, reduceCtorEq, decide_false, Bool.false_eq_true, if_false]
          omega

/-- What the counter counts. -/
theorem paid_add_missing (calls : List (Getopt.Call Code)) :
    paid calls + missing calls = 7 + surplus calls := by
  have hsum := sum_length_add_countP counted calls
  have hlength : counted.length = 6 := rfl
  rw [paid, missing, mandatory, List.countP_append, List.countP_singleton, surplus]
  cases hdns : given dns calls with
  | nil =>
      simp only [List.length_nil, decide_true, if_true]
      omega
  | cons text texts =>
      simp only [List.length_cons, reduceCtorEq, decide_false, Bool.false_eq_true, if_false]
      omega

/-- On a command line without unknown options `main` proceeds where the repetitions
are as many as the missing options. -/
theorem startup_of_known (hknown : .unknown ∉ optionTable.getoptLong posixlyCorrect args) :
    ∃ m : Main, m.Holds (optionTable.getoptLong posixlyCorrect args) ∧
      startup posixlyCorrect args =
        if missing (optionTable.getoptLong posixlyCorrect args) =
            surplus (optionTable.getoptLong posixlyCorrect args)
        then .proceeds m else .missing m.neccessary := by
  obtain ⟨m, hreadAll, hholds⟩ :=
    Main.holds_nil.readAll (Table.getoptLong_fits args) hknown
  rw [List.nil_append] at hholds
  refine ⟨m, hholds, ?_⟩
  have hpaid := paid_add_missing (optionTable.getoptLong posixlyCorrect args)
  have hcounter := hholds.neccessary
  rw [startup, hreadAll]
  by_cases hmissing : missing (optionTable.getoptLong posixlyCorrect args) =
      surplus (optionTable.getoptLong posixlyCorrect args)
  · rw [if_pos hmissing]
    exact if_neg (by omega)
  · rw [if_neg hmissing]
    exact if_pos (by omega)

theorem Main.Holds.initialised (h : m.Holds calls)
    (hgiven : ∀ code ∈ mandatory, given code calls ≠ []) : m.Initialised calls := by
  have hlast : ∀ code ∈ mandatory,
      ∃ text ∈ given code calls, (given code calls).getLast? = some text :=
    fun code hcode =>
      ⟨_, List.getLast_mem (hgiven code hcode), List.getLast?_eq_some_getLast (hgiven code hcode)⟩
  obtain ⟨inDev, -, hin⟩ := hlast (.val 'i') (by decide)
  obtain ⟨outDev, -, hout⟩ := hlast (.val 'o') (by decide)
  obtain ⟨dbUser, -, huser⟩ := hlast (.val 'u') (by decide)
  obtain ⟨dbPass, -, hpass⟩ := hlast (.val 'p') (by decide)
  obtain ⟨gatewayIP, hgateway, hgatewayLast⟩ := hlast (.flag 1) (by decide)
  obtain ⟨subnetMask, hsubnet, hsubnetLast⟩ := hlast (.flag 2) (by decide)
  exact {
    inDev := by rw [h.inDev, hin]; exact Option.some_ne_none _
    outDev := by rw [h.outDev, hout]; exact Option.some_ne_none _
    dbUser := by rw [h.dbUser, huser]; exact Option.some_ne_none _
    dbPass := by rw [h.dbPass, hpass]; exact Option.some_ne_none _
    gatewayIP := by rw [h.gatewayIP, hgatewayLast]; exact List.mem_map_of_mem hgateway
    subnetMask := by rw [h.subnetMask, hsubnetLast]; exact List.mem_map_of_mem hsubnet
    dnsList := by
      rw [h.dnsList]
      exact fun hnil => hgiven dns (by decide) (List.map_eq_nil_iff.mp hnil) }

/-- **When every option that has to be given is required.** No option that counts each
time is given again, or some options are missing, though not as many as are
repeated. -/
theorem required_iff (hknown : .unknown ∉ optionTable.getoptLong posixlyCorrect args) :
    Required posixlyCorrect args ↔
      surplus (optionTable.getoptLong posixlyCorrect args) = 0 ∨
        missing (optionTable.getoptLong posixlyCorrect args) ≠ 0 ∧
          surplus (optionTable.getoptLong posixlyCorrect args) ≠
            missing (optionTable.getoptLong posixlyCorrect args) := by
  obtain ⟨m, hholds, hstartup⟩ := startup_of_known hknown
  have hproceeds : (∃ m, startup posixlyCorrect args = .proceeds m) ↔
      missing (optionTable.getoptLong posixlyCorrect args) =
        surplus (optionTable.getoptLong posixlyCorrect args) := by
    rw [hstartup]
    constructor
    · rintro ⟨m', hm'⟩
      by_contra hne
      rw [if_neg hne] at hm'
      contradiction
    · intro heq
      exact ⟨m, if_pos heq⟩
  constructor
  · intro hrequired
    have hiff := hproceeds.symm.trans (hrequired.proceeds_iff.trans missing_eq_zero_iff.symm)
    omega
  · intro hcond
    have hiff : (∃ m, startup posixlyCorrect args = .proceeds m) ↔
        ∀ code ∈ mandatory, given code (optionTable.getoptLong posixlyCorrect args) ≠ [] := by
      rw [hproceeds, ← missing_eq_zero_iff]
      omega
    refine ⟨hiff, fun m' hm' => ?_⟩
    have hgiven := hiff.mp ⟨m', hm'⟩
    have heq := hproceeds.mp ⟨m', hm'⟩
    rw [hstartup, if_pos heq] at hm'
    obtain rfl := Startup.proceeds.inj hm'
    exact hholds.initialised hgiven

/-- A command line that spells every option that has to be given, and none twice that
counts each time, starts the daemon with what it spells. -/
theorem startup_of_spelling (h : optionTable.Spelling args calls)
    (hmissing : missing calls = 0) (hsurplus : surplus calls = 0) :
    ∃ m : Main, startup false args = .proceeds m ∧ m.Holds calls := by
  have hread := Table.getoptLong_of_spelling (by decide) h
  have hknown := Table.unknown_notMem_of_spelling h
  rw [← hread] at hknown
  obtain ⟨m, hholds, hstartup⟩ := startup_of_known hknown
  rw [hread] at hholds hstartup
  exact ⟨m, by rw [hstartup, hmissing, hsurplus, if_pos rfl], hholds⟩

/-! A command line without a `dns` option. -/

def sampleArgs : List String :=
  ["-i", "eth0", "--outside=eth1", "-ugateway", "--db-p", "secret", "--gateway", "10.0.0.1",
    "--subnet", "255.255.255.0"]

theorem required_iff_sample : Required false ("--dns" :: "8.8.8.8" :: sampleArgs) :=
  (required_iff (by decide +kernel)).mpr (.inl (by decide +kernel))

/-- The command line without `dns` passes if it names a second device, and with a second
device and the option it does not. -/
theorem repetition_pays :
    (.unknown ∉ optionTable.getoptLong false ("-i" :: "eth2" :: sampleArgs) ∧
      given dns (optionTable.getoptLong false ("-i" :: "eth2" :: sampleArgs)) = [] ∧
      (∃ m, startup false ("-i" :: "eth2" :: sampleArgs) = .proceeds m ∧ m.dnsList = []) ∧
      ¬Required false ("-i" :: "eth2" :: sampleArgs)) ∧
    .unknown ∉ optionTable.getoptLong false
        ("-i" :: "eth2" :: "--dns" :: "8.8.8.8" :: sampleArgs) ∧
      missing (optionTable.getoptLong false
        ("-i" :: "eth2" :: "--dns" :: "8.8.8.8" :: sampleArgs)) = 0 ∧
      startup false ("-i" :: "eth2" :: "--dns" :: "8.8.8.8" :: sampleArgs) = .missing (-1) ∧
      ¬Required false ("-i" :: "eth2" :: "--dns" :: "8.8.8.8" :: sampleArgs) := by
  have hpasses : ∃ m, startup false ("-i" :: "eth2" :: sampleArgs) = .proceeds m ∧
      m.dnsList = [] := ⟨_, rfl, rfl⟩
  have hfails : startup false ("-i" :: "eth2" :: "--dns" :: "8.8.8.8" :: sampleArgs) =
      .missing (-1) := rfl
  refine ⟨⟨by decide +kernel, by decide +kernel, hpasses, fun h => ?_⟩, by decide +kernel,
    by decide +kernel, hfails, fun h => ?_⟩
  · obtain ⟨m, hm, hnil⟩ := hpasses
    exact (h.initialised m hm).dnsList hnil
  · obtain ⟨m, hm⟩ := h.proceeds_iff.mpr (by decide +kernel)
    rw [hfails] at hm
    contradiction

end GatewaySocket
