import LoopStepper.Proofs.Calls
import LoopStepper.Proofs.Readable

/-!
# Calls that fail

A call that fails tells nobody, and leaves the simulator as it was but for its faults and, in one
case, its source: a reset takes over its text before it reads it, and only then finds that it cannot
be read (`parse_emptyTimeout`). So the source may be a text that the program and the event loop do
not come from.

Headlines:
* **`failed_call`**: what every failed call leaves behind.
* **`reset_emptyTimeout`**: the reset that leaves its text behind.
-/

namespace LoopStepper

namespace Simulator

/-! ## What a failed call leaves behind -/

/-- The source after a call that failed: a reset keeps the text that it could not read. -/
def sourceAfter (sim : Simulator) : Request → Failure → String
  | .reset source _, .numeral _ => source.getD sim.source
  | _, _ => sim.source

theorem sourceAfter_injected (sim : Simulator) (request : Request) :
    sim.sourceAfter request .injected = sim.source := by
  cases request <;> rfl

/-- A simulator of one print call. -/
def printer : Simulator where
  source := "console.log('A');"
  program := [Script.printTask 0 0 "A"]
  loop := .start [Script.printTask 0 0 "A"]
  tickMs := 100
  intervalMs := 1000

theorem create_printer : create "console.log('A');" (.whole 100) (.whole 1000) = .ok printer := by
  have hroles : (Script.linesOf "console.log('A');").map Script.Role.of = ["A"].map .prints := by
    decide
  have hread : Script.parse "console.log('A');" = .ok printer.program :=
    Script.parse_of_prints hroles
  simp only [create, clampInterval, Quantity.toInt_whole, hread]
  rfl

variable {sim : Simulator} {request : Request} {failure : Failure}

/-- **A call that fails tells nobody and changes nothing but the faults and, in a reset, the
source**, where announcing was not told to fail. Whether a reset turns the automatic run on is a
`Bool` here, and to look at it cannot fail; a value that had to be asked for its truth would be
asked when the source, the program and the state are the new ones already. -/
theorem failed_call (hann : .announce ∉ sim.faults)
    (hfail : (sim.answer request).result = .error failure) :
    (sim.answer request).notices = [] ∧
      ∃ faults, (sim.answer request).simulator =
        { sim with source := sim.sourceAfter request failure, faults } := by
  have hcalled : Called sim request (sim.answer request) := called sim request
  generalize sim.answer request = outcome at hcalled hfail
  cases hcalled with
  | quiet | told => cases hfail
  | untold _ hmuted => exact absurd hmuted hann
  | injected =>
    cases hfail
    exact ⟨rfl, _, by rw [sourceAfter_injected]; rfl⟩
  | unread | unreplayed | sizeless | speedless =>
    cases hfail
    exact ⟨rfl, sim.faults, rfl⟩

/-- A tick whose size is no number leaves everything as it was. -/
theorem failed_call_printer : .announce ∉ printer.faults ∧
    (printer.answer (.tick (some (.other "list")))).result =
      .error (.quantity (.noNumber "list")) ∧
    (printer.answer (.tick (some (.other "list")))).notices = [] ∧
      ∃ faults, (printer.answer (.tick (some (.other "list")))).simulator =
        { printer with faults } :=
  have hann : .announce ∉ printer.faults := List.not_mem_nil
  have hfail : (printer.answer (.tick (some (.other "list")))).result =
      .error (.quantity (.noNumber "list")) := rfl
  ⟨hann, hfail, failed_call hann hfail⟩

/-- **A reset to a text that cannot be read takes it over all the same**, and keeps the program and
the state that belong to the text before it. -/
theorem reset_emptyTimeout (sim : Simulator) (autoplay : Bool) {digits : List Char}
    (hop : .reset ∉ sim.faults) (h : ∀ c ∈ digits, c.isDigit = true)
    (hmany : Text.maxDigits < digits.length) :
    sim.reset (some (Script.emptyTimeout digits)) autoplay =
      { result := .error (.numeral (.tooManyDigits digits.length))
        simulator := { sim with source := Script.emptyTimeout digits } } :=
  sim.reset_of_unread _ autoplay hop (Script.parse_emptyTimeout h hmany)

/-- One digit too many is enough: the call fails, and the source is another than before. -/
theorem unread_text_kept :
    create "console.log('A');" (.whole 100) (.whole 1000) = .ok printer ∧
    (printer.answer (.reset (some (Script.emptyTimeout (List.replicate 4301 '1'))) false)).result =
      .error (.numeral (.tooManyDigits 4301)) ∧
    (printer.answer
      (.reset (some (Script.emptyTimeout (List.replicate 4301 '1'))) false)).simulator.source ≠
        printer.source := by
  have hlength : (List.replicate 4301 '1').length = 4301 := List.length_replicate
  have hreset := printer.reset_emptyTimeout false List.not_mem_nil
    (Script.isDigit_of_mem_ones 4301) (by rw [hlength]; decide)
  rw [hlength] at hreset
  rw [answer, hreset]
  refine ⟨create_printer, rfl, fun heq => ?_⟩
  have hhead : (Script.emptyTimeout (List.replicate 4301 '1')).toList.head? = some 's' :=
    Script.head?_emptyTimeout _
  exact absurd (hhead.symm.trans (congrArg (·.toList.head?) heq)) (by decide)

end Simulator

end LoopStepper
