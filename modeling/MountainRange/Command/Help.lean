import MountainRange.Command.Invocation
import MountainRange.Text.Split
set_option autoImplicit false

/-!
# Help pages

A page tells how a command is called, what it does and which options it knows.  Texts
are filled up to the width of the page, and the second column of a list starts behind
the longest entry of the first, unless that is too far to the right.
-/

namespace MountainRange.Command.Help

/-! ## Layout -/

/-- The columns of a page. -/
def pageWidth : Nat := 78

/-- The columns in front of all but headings. -/
def margin : Nat := 2

/-- The columns between the two columns of a list. -/
def gap : Nat := 2

/-- Greatest width of the first column of a list. -/
def maxFirst : Nat := 30

/-- Spaces. -/
def spaces (n : Nat) : String := String.ofList (List.replicate n ' ')

/-- Lays words on lines of at most some number of columns, behind a line that holds some
already. -/
def fillFrom (columns : Nat) (line : String) : List String → List String
  | [] => [line]
  | word :: rest =>
      if line = "" then fillFrom columns word rest
      else if line.length + 1 + word.length ≤ columns then
        fillFrom columns (line ++ " " ++ word) rest
      else line :: fillFrom columns word rest

/-- The words of a text. -/
def wordsOf (text : String) : List String := (Text.splitBlanks text).map Text.escaped

/-- The lines of a text. -/
def fill (columns : Nat) (text : String) : List String := fillFrom columns "" (wordsOf text)

/-- A paragraph. -/
def paragraph (text : String) : List String :=
  (fill (pageWidth - margin) text).map (spaces margin ++ ·)

/-- The width of the first column of a list, with the gap behind it. -/
def firstWidth (rows : List (String × String)) : Nat :=
  min ((rows.map (·.1.length)).foldl max 0) maxFirst + gap

/-- A row of a list whose first column has some width. -/
def row (first : Nat) (entry : String × String) : List String :=
  let (name, text) := entry
  let behind := spaces (margin + first)
  match fill (pageWidth - first - margin) text with
  | [] => []
  | line :: lines =>
      (if name.length + gap ≤ first then
        [spaces margin ++ name ++ spaces (first - name.length) ++ line]
      else [spaces margin ++ name, behind ++ line]) ++ lines.map (behind ++ ·)

/-- A list under a heading, with an empty line above. -/
def list (heading : String) (rows : List (String × String)) : List String :=
  ["", heading ++ ":"] ++ rows.flatMap (row (firstWidth rows))

/-! ## Texts -/

/-- The choices of an option. -/
def choices (labels : List String) : String := "[" ++ "|".intercalate labels ++ "]"

/-- An option with what stands for its value. -/
def flagLabel : Flag → String
  | .verbose => "-v, --verbose"
  | .expectedLeaf => "--expected-leaf TEXT"
  | .parity => "--parity " ++ choices (Convention.all.map Convention.label)
  | .remote => "--remote TEXT"
  | .format => "--format " ++ choices (Format.all.map Format.label)
  | .outputDir => "--output-dir DIRECTORY"
  | .apiUrl => "--api-url TEXT"
  | .host => "--host TEXT"
  | .port => "--port INTEGER"
  | flag => flag.name

/-- What an option is for. -/
def flagText : Flag → String
  | .help => "Show this message and exit."
  | .verbose => "Enable verbose logging"
  | .expectedLeaf => "Leaf the proof must be for (hex string)"
  | .legacyAnywhere =>
      "Accept the computed peak at any position in the peak set (legacy compatibility)"
  | .parity => "Parity convention the sibling path was generated with"
  | .remote => "Verify through a remote verifier API at this URL (the server's settings apply)"
  | .format => "Output format"
  | .outputDir => "Write prover input files (input.cairo1.json / input.cairo1.txt) here"
  | .apiUrl => "Verifier API URL"
  | .host => "Host to bind to"
  | .port => "Port to bind to"
  | .dev => "Enable development mode with auto-reload"

/-- The arguments of a command. -/
def arguments : Name → List Positional
  | .verify => [.jsonFile]
  | .decode => [.fields]
  | .encode => [.jsonFile]
  | .commitment => [.recipient, .amount, .nonce, .timestamp]
  | .health => []
  | .serve => []

/-- What a command does. -/
def summary : Name → String
  | .verify => "Verify a structured proof from a JSON file."
  | .decode => "Decode and verify an encoded request."
  | .encode => "Encode a structured proof from a JSON file into its flat field sequence."
  | .commitment => "Compute the Poseidon commitment hash of a deposit."
  | .health => "Check the health of a verifier API."
  | .serve => "Start the REST API server."

/-- More about the arguments of a command. -/
def remarks : Name → List String
  | .verify =>
      ["JSON_FILE holds mode, root, leaf, leaf_index, mmr_size, siblings and peaks, with " ++
        "digests as 0x hex strings."]
  | .decode => ["FIELDS are the slots of the encoded request as decimal or 0x hex values."]
  | .commitment => ["RECIPIENT is the L2 address as decimal or 0x hex."]
  | _ => []

/-- A summary in a list of commands, cut between words if it is too long. -/
def shortSummary (columns : Nat) (text : String) : String :=
  if text.length ≤ columns then text
  else ((fill (columns - 3) text).headD "") ++ "..."

/-! ## Pages -/

/-- The name that all commands are called by. -/
def program : String := "cli"

/-- A page from its parts. -/
def page (usage : String) (paragraphs : List String) (rest : List String) : String :=
  let lines := ["Usage: " ++ usage] ++
    paragraphs.flatMap (fun text => "" :: paragraph text) ++ rest
  String.join (lines.map (· ++ "\n"))

/-- The rows of options. -/
def flagRows (flags : List Flag) : List (String × String) :=
  flags.map fun flag => (flagLabel flag, flagText flag)

/-- The page of a command. -/
def ofName (name : Name) : String :=
  let words := [program, name.label, "[OPTIONS]"] ++ (arguments name).map Positional.label
  page (" ".intercalate words) (summary name :: remarks name)
    (list "Options" (flagRows name.flags))

/-- The columns left for a summary in the list of commands. -/
def summaryWidth : Nat :=
  pageWidth - 6 - (Name.all.map (·.label.length)).foldl max 0

/-- The page of all commands. -/
def overview : String :=
  page (program ++ " [OPTIONS] COMMAND [ARGS]...")
    ["MMR Proofs CLI - Verify Merkle Mountain Range inclusion proofs.",
     "Proofs are verified under the wide Keccak scheme (mode 1) or the compact Poseidon " ++
      "scheme (mode 2)."]
    (list "Options" (flagRows Invocation.leadingFlags) ++
      list "Commands" (Name.all.map fun name =>
        (name.label, shortSummary summaryWidth (summary name))))

/-- The page that is asked for. -/
def text : Option Name → String
  | none => overview
  | some name => ofName name

end MountainRange.Command.Help
