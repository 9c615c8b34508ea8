import LayeredSettings.Console.Emoji
import LayeredSettings.Console.Layout

namespace LayeredSettings

/-- A text in which there is no markup, with pictures in place of their codes. -/
def shownPlain (s : String) : String := String.ofList (drawn s.toList)

/-- A text for the next program, ended by a line end. It is not broken into lines, and no markup is read in it, but
it is shown as on a terminal, one that is wide enough for every line. -/
def printed (s : String) : String := String.ofList (shown (shownPlain s).toList ++ ['\n'])

end LayeredSettings
