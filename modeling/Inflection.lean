import Inflection.Study.Text
import Inflection.WordIds
import Inflection.Proofs.Batch
import Inflection.Proofs.Json.Records
import Inflection.Proofs.Labels
import Inflection.Proofs.Lexicon.Members
import Inflection.Proofs.Lexicon.Runs
import Inflection.Proofs.Participles
import Inflection.Proofs.Rule.Equality
import Inflection.Proofs.Rule.Layout
import Inflection.Proofs.Rule.Letters
import Inflection.Proofs.Rule.Stems
import Inflection.Proofs.Rule.Writing
import Inflection.Proofs.StoredLabels
import Inflection.Proofs.Study.Answers
import Inflection.Proofs.Study.Block
import Inflection.Proofs.Study.Cards
import Inflection.Proofs.Study.Text
