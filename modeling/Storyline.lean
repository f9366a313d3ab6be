import Storyline.Batch
import Storyline.Proofs.Run.Calls
import Storyline.Proofs.Run.Ending
import Storyline.Proofs.Step.Ranking
import Storyline.Proofs.Story.Reading
import Storyline.Proofs.Story.Independence
import Storyline.Proofs.Keyword
import Storyline.Proofs.Keyword.Longest
import Storyline.Proofs.Story.KeywordLine
import Storyline.Proofs.Story.GivenStories
import Storyline.Proofs.Story.Narrative
import Storyline.Proofs.Story.Sections
import Storyline.Proofs.Story.Conservation
import Storyline.Proofs.Table
import Storyline.Proofs.Story.Rendering
import Storyline.Proofs.Regex.Branches
import Storyline.Proofs.Regex.Search
import Storyline.Proofs.Regex.Reading
import Storyline.Proofs.Pattern.Cut
import Storyline.Proofs.Run.Room
import Storyline.Proofs.Batch
import Storyline.Proofs.Story.Recognition
import Storyline.Proofs.Story.ErrorLine
import Storyline.Proofs.Story.Fallback
import Storyline.Proofs.Table.Substitution
import Storyline.Proofs.Table.Writing
import Storyline.Proofs.Story.RowKeywords
import Storyline.Proofs.Step.Arguments
import Storyline.Proofs.Configuration
import Storyline.Proofs.Configuration.Settling
import Storyline.Proofs.Conversion
import Storyline.Proofs.Conversion.Integer
import Storyline.Proofs.Pattern.Anchor
import Storyline.Proofs.Run.Policy
import Storyline.Proofs.Pattern.Fault
import Storyline.Proofs.Pattern.Transcription
import Storyline.Proofs.Step.Ambiguity
import Storyline.Proofs.Regex.LiteralCount
