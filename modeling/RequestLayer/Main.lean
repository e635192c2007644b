import RequestLayer.Command.Run

set_option autoImplicit false

namespace RequestLayer.Command

def contentsOf (name : String) : IO FileContents := do
  try return .bytes (← IO.FS.readBinFile name)
  catch _ => return .absent

def filesOf (arguments : List String) : IO (List (String × FileContents)) :=
  match Arguments.read arguments with
  | .ok found =>
      (found.config.toList ++ found.allowList.toList).mapM fun name => do
        return (name, ← contentsOf name)
  | .error _ => return []

def usage : String :=
  "Usage: rpcctl [-r URL] [-c FILE] [-a FILE] [--async] call METHOD [PARAMS] [--repeat N]\n" ++
  "       rpcctl [-r URL] [-c FILE] [-a FILE] [--async] batch CALL..."

-- There is no network, so every server is out of reach.
def start (arguments : List String) : IO UInt32 := do
  let files ← filesOf arguments
  let (outcome, _) :=
    run arguments (fun name => (files.lookup name).getD .absent) Wire.unreachable (.still 0) ()
  match outcome with
  | .printed text => IO.print text; return 0
  | .failed message => IO.eprintln ("Error: " ++ message); return 1
  | .misused .help => IO.println usage; return 0
  | .misused .wrong => IO.eprintln usage; return 2

end RequestLayer.Command

def main (arguments : List String) : IO UInt32 :=
  RequestLayer.Command.start arguments
