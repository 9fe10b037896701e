import Gossip.CommandLine.Request

/-! The pages of help.

A page says what its topic is about and how it is used, and lists names with what they stand for.
The names of a list are filled up to the longest of them, so that the descriptions stand in a
column. -/
namespace Gossip.CommandLine

/-! ### Pages -/

/-- A name and what it stands for. -/
structure HelpEntry where
  name : String
  text : String
  deriving DecidableEq, Repr

/-- Entries under a title. -/
structure HelpList where
  title : String
  entries : List HelpEntry
  deriving DecidableEq, Repr

structure HelpPage where
  about : String
  usage : String
  lists : List HelpList
  deriving DecidableEq, Repr

/-- The length of the longest name. -/
def HelpList.width (list : HelpList) : Nat :=
  list.entries.foldl (fun width entry => max width entry.name.length) 0

/-- An entry on a line, with the description after a name of a given width. -/
def HelpEntry.line (width : Nat) (entry : HelpEntry) : String :=
  let padding := String.ofList (List.replicate (width - entry.name.length) ' ')
  "  " ++ entry.name ++ padding ++ "  " ++ entry.text

def HelpList.lines (list : HelpList) : List String :=
  "" :: (list.title ++ ":") :: list.entries.map (HelpEntry.line list.width)

/-- The lines of a page: an empty line stands before the usage and before each list. -/
def HelpPage.lines (page : HelpPage) : List String :=
  page.about :: "" :: ("Usage: " ++ page.usage) :: page.lists.flatMap HelpList.lines

/-! ### What there is to say -/

/-- The default of a parameter and the values it can have. -/
def choices (initial : String) (values : List String) : String :=
  "[default: " ++ initial ++ "] [possible values: " ++ String.intercalate ", " values ++ "]"

def networkChoices : String := choices Network.mainnet.name (Network.all.map Network.name)

def formatChoices : String := choices "json" ["json", "pretty"]

def verboseEntry : HelpEntry :=
  ⟨"-v, --verbose...", "Raise the log level (repeat for more detail)"⟩

def helpEntry : HelpEntry := ⟨"-h, --help", "Print help"⟩

def networkEntry (text : String) : HelpEntry :=
  ⟨"    --network <NETWORK>", text ++ " " ++ networkChoices⟩

/-- The first line of the page on an action. -/
def ActionKind.about : ActionKind → String
  | .inspect => "Inspect frame headers and inventory counts"
  | .decode => "Decode a framed inventory message"
  | .encode => "Build and frame an inventory message"

/-- The first line of the page on help. -/
def helpAbout : String := "Print this message or the help of the given subcommand(s)"

def ActionKind.page (kind : ActionKind) : HelpPage :=
  match kind with
  | .inspect =>
    { about := kind.about
      usage := "invwire-tools inspect [OPTIONS] <MESSAGE_PATH>"
      lists :=
        [⟨"Arguments", [⟨"<MESSAGE_PATH>", "Path to a framed message, or a directory of them"⟩]⟩,
          ⟨"Options",
            [⟨"    --glob <GLOB>", "Optional glob filter when inspecting a directory"⟩,
              verboseEntry,
              networkEntry "Network whose magic the frames must carry",
              helpEntry]⟩] }
  | .decode =>
    { about := kind.about
      usage := "invwire-tools decode [OPTIONS] <MESSAGE_FILE>"
      lists :=
        [⟨"Arguments", [⟨"<MESSAGE_FILE>", "Path to the framed message"⟩]⟩,
          ⟨"Options",
            [networkEntry "Network whose magic the frame must carry",
              verboseEntry,
              ⟨"    --format <FORMAT>", "Output format " ++ formatChoices⟩,
              helpEntry]⟩] }
  | .encode =>
    { about := kind.about
      usage := "invwire-tools encode [OPTIONS] --command <COMMAND> --out <OUT>"
      lists :=
        [⟨"Options",
          [⟨"    --command <COMMAND>", "Message command: inv, getdata or notfound"⟩,
            verboseEntry,
            ⟨"    --item <ITEMS>", "Inventory item as TYPE:HASH; repeat for more items"⟩,
            networkEntry "Network magic to frame with",
            ⟨"    --out <OUT>", "Output file for the framed bytes"⟩,
            helpEntry]⟩] }

namespace HelpTopic

def page : HelpTopic → HelpPage
  | .program =>
    { about := "Inspect, decode and encode framed inventory messages"
      usage := "invwire-tools [OPTIONS] <COMMAND>"
      lists :=
        [⟨"Commands",
          [⟨"inspect", ActionKind.inspect.about⟩, ⟨"decode", ActionKind.decode.about⟩,
            ⟨"encode", ActionKind.encode.about⟩, ⟨"help", helpAbout⟩]⟩,
          ⟨"Options", [verboseEntry, helpEntry, ⟨"-V, --version", "Print version"⟩]⟩] }
  | .action kind => kind.page
  | .help =>
    { about := helpAbout
      usage := "invwire-tools help [COMMAND]..."
      lists := [⟨"Arguments", [⟨"[COMMAND]...", "Print help for the subcommand(s)"⟩]⟩] }

/-- The answer to a request for help. -/
def text (topic : HelpTopic) : String := String.intercalate "\n" topic.page.lines

end HelpTopic

/-- The answer to a request for the version. -/
def versionText : String := "invwire-tools 0.1.0"

end Gossip.CommandLine
